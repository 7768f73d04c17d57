/-
**The statements.**

The texts of the statements that the database is asked to run, with numbered places for their
parameters.

Main definitions:

* one text per statement, such as `Sql.resolveKey` or `Sql.listGrants`.
-/

set_option relaxedAutoImplicit false
set_option autoImplicit false

namespace TableAccess

namespace Database

namespace Sql

/-! ### Principals -/

def findPrincipal : String :=
  "SELECT users.id, users.username, users.first_name, users.last_name, users.email, "
    ++ "users.active, COALESCE( array_agg(roles.name ORDER BY roles.name) FILTER (WHERE "
    ++ "roles.name IS NOT NULL), ARRAY[]::TEXT[] ) AS roles "
    ++ "FROM users "
    ++ "LEFT JOIN user_roles ON user_roles.user_id = users.id "
    ++ "LEFT JOIN roles ON roles.id = user_roles.role_id "
    ++ "WHERE users.id = $1 "
    ++ "GROUP BY users.id"

/-- The active principals that have no key. -/
def listKeyCandidates : String :=
  "SELECT users.id, users.username, users.first_name, users.last_name, users.email, "
    ++ "users.active, COALESCE( array_agg(roles.name ORDER BY roles.name) FILTER (WHERE "
    ++ "roles.name IS NOT NULL), ARRAY[]::TEXT[] ) AS roles "
    ++ "FROM users "
    ++ "LEFT JOIN user_roles ON user_roles.user_id = users.id "
    ++ "LEFT JOIN roles ON roles.id = user_roles.role_id "
    ++ "WHERE users.active AND NOT EXISTS ( SELECT 1 "
    ++ "FROM user_attributes "
    ++ "WHERE user_attributes.user_id = users.id AND user_attributes.access_key IS NOT NULL ) "
    ++ "GROUP BY users.id "
    ++ "ORDER BY users.username"

/-! ### Keys -/

/-- The key with a token, its owner and the owner's roles, in one statement and so at one moment.
-/
def resolveKey : String :=
  "SELECT attributes.user_id, attributes.access_key, attributes.created_at, "
    ++ "attributes.changed_at, attributes.changed_by, users.id AS principal_id, "
    ++ "users.username, users.first_name, users.last_name, users.email, users.active, "
    ++ "COALESCE( array_agg(roles.name ORDER BY roles.name) FILTER (WHERE roles.name IS NOT "
    ++ "NULL), ARRAY[]::TEXT[] ) AS roles "
    ++ "FROM user_attributes AS attributes "
    ++ "LEFT JOIN users ON users.id = attributes.user_id "
    ++ "LEFT JOIN user_roles ON user_roles.user_id = users.id "
    ++ "LEFT JOIN roles ON roles.id = user_roles.role_id "
    ++ "WHERE attributes.access_key = $1 "
    ++ "GROUP BY attributes.id, users.id"

def findKey : String :=
  "SELECT user_id, access_key, created_at, changed_at, changed_by "
    ++ "FROM user_attributes "
    ++ "WHERE user_id = $1 AND access_key IS NOT NULL"

/-- Every key with the names of its owner and of who changed it last. -/
def listKeys : String :=
  "SELECT attributes.user_id, attributes.access_key, attributes.created_at, "
    ++ "attributes.changed_at, attributes.changed_by, owners.username AS owner_username, "
    ++ "owners.first_name AS owner_first_name, owners.last_name AS owner_last_name, "
    ++ "changers.username AS changer_username, changers.first_name AS changer_first_name, "
    ++ "changers.last_name AS changer_last_name "
    ++ "FROM user_attributes AS attributes "
    ++ "INNER JOIN users AS owners ON owners.id = attributes.user_id "
    ++ "LEFT JOIN users AS changers ON changers.id = attributes.changed_by "
    ++ "WHERE attributes.access_key IS NOT NULL "
    ++ "ORDER BY attributes.changed_at DESC, attributes.user_id"

/-- Gives a key to a user that has none; a row without a key may be there already. -/
def createKey : String :=
  "INSERT INTO user_attributes (user_id, access_key, created_by, changed_by) "
    ++ "VALUES ($1, $2, $3, $3) "
    ++ "ON CONFLICT (user_id) DO UPDATE "
    ++ "SET access_key = EXCLUDED.access_key, changed_at = now(), changed_by = "
    ++ "EXCLUDED.changed_by "
    ++ "WHERE user_attributes.access_key IS NULL "
    ++ "RETURNING user_id, access_key, created_at, changed_at, changed_by"

def rotateKey : String :=
  "UPDATE user_attributes "
    ++ "SET access_key = $2, changed_at = now(), changed_by = $3 "
    ++ "WHERE user_id = $1 AND access_key IS NOT NULL "
    ++ "RETURNING user_id, access_key, created_at, changed_at, changed_by"

def deleteKey : String :=
  "DELETE "
    ++ "FROM user_attributes "
    ++ "WHERE user_id = $1 AND access_key IS NOT NULL "
    ++ "RETURNING user_id, access_key, created_at, changed_at, changed_by"

/-! ### Capabilities -/

/-- The capabilities that cover a registered data table. -/
def listGrantable : String :=
  "SELECT capabilities.id AS capability_id, capabilities.permission_name, "
    ++ "capabilities.resource_name "
    ++ "FROM capabilities "
    ++ "INNER JOIN data_tables ON data_tables.perm = capabilities.resource_name "
    ++ "WHERE capabilities.permission_name = $1 "
    ++ "ORDER BY capabilities.resource_name"

def findGrantable : String :=
  "SELECT capabilities.id AS capability_id, capabilities.permission_name, "
    ++ "capabilities.resource_name "
    ++ "FROM capabilities "
    ++ "INNER JOIN data_tables ON data_tables.perm = capabilities.resource_name "
    ++ "WHERE capabilities.permission_name = $1 AND capabilities.id = ANY($2) "
    ++ "ORDER BY capabilities.resource_name"

/-! ### Grants -/

def loadCapabilities : String :=
  "SELECT links.grant_id, capabilities.id AS capability_id, "
    ++ "capabilities.permission_name, capabilities.resource_name "
    ++ "FROM permission_grant_capabilities AS links "
    ++ "INNER JOIN capabilities ON capabilities.id = links.capability_id "
    ++ "WHERE links.grant_id = ANY($1) "
    ++ "ORDER BY links.grant_id, capabilities.resource_name"

def insertGrant : String :=
  "INSERT INTO permission_grants ( user_id, apply_date, expire_date, is_active, "
    ++ "created_by, changed_by ) "
    ++ "VALUES ($1, $2, $3, TRUE, $4, $4) "
    ++ "RETURNING id AS grant_id, user_id, apply_date, expire_date, force_terminate_at, "
    ++ "is_active"

def insertLinks : String :=
  "INSERT INTO permission_grant_capabilities (grant_id, capability_id) "
    ++ "SELECT $1, capability_id "
    ++ "FROM UNNEST($2::BIGINT[]) AS requested (capability_id) "
    ++ "ON CONFLICT (grant_id, capability_id) DO NOTHING"

def findGrant : String :=
  "SELECT id AS grant_id, user_id, apply_date, expire_date, force_terminate_at, "
    ++ "is_active "
    ++ "FROM permission_grants "
    ++ "WHERE id = $1"

def listGrants : String :=
  "SELECT id AS grant_id, user_id, apply_date, expire_date, force_terminate_at, "
    ++ "is_active "
    ++ "FROM permission_grants "
    ++ "WHERE ($1::BIGINT IS NULL OR user_id = $1) AND ( NOT $2 OR (is_active AND "
    ++ "force_terminate_at IS NULL AND expire_date >= $3) ) "
    ++ "ORDER BY user_id, id DESC "
    ++ "LIMIT $4 "
    ++ "OFFSET $5"

def forceRevokeGrant : String :=
  "UPDATE permission_grants "
    ++ "SET is_active = FALSE, force_terminate_at = $2, changed_at = $2, changed_by = $3 "
    ++ "WHERE id = $1 AND is_active AND force_terminate_at IS NULL AND expire_date >= $4 "
    ++ "RETURNING id AS grant_id, user_id, apply_date, expire_date, force_terminate_at, "
    ++ "is_active"

/-- Deletes a grant if it is recorded as inactive. -/
def deleteInactiveGrant : String :=
  "DELETE "
    ++ "FROM permission_grants "
    ++ "WHERE id = $1 AND is_active = FALSE"

def deactivateExpired : String :=
  "UPDATE permission_grants "
    ++ "SET is_active = FALSE, changed_at = now() "
    ++ "WHERE is_active AND force_terminate_at IS NULL AND expire_date < $1"

def listActiveCapabilities : String :=
  "SELECT DISTINCT capabilities.id AS capability_id, capabilities.permission_name, "
    ++ "capabilities.resource_name "
    ++ "FROM permission_grants AS grants "
    ++ "INNER JOIN permission_grant_capabilities AS links ON links.grant_id = grants.id "
    ++ "INNER JOIN capabilities ON capabilities.id = links.capability_id "
    ++ "WHERE grants.user_id = $1 AND grants.is_active AND grants.force_terminate_at IS NULL "
    ++ "AND grants.expire_date >= $2 "
    ++ "ORDER BY capabilities.resource_name"

/-! ### The audit log -/

def appendEvent : String :=
  "INSERT INTO audit_log_entries ( action, actor_id, duration_ms, payload, error ) "
    ++ "VALUES ($1, $2, $3, $4, $5)"

def listRecentEntries : String :=
  "SELECT id AS event_id, action, actor_id, duration_ms, payload, error, created_at "
    ++ "FROM audit_log_entries "
    ++ "WHERE ($1::TEXT IS NULL OR action = $1) AND ($2::BIGINT IS NULL OR actor_id = $2) "
    ++ "ORDER BY created_at DESC, id DESC "
    ++ "LIMIT $3 "
    ++ "OFFSET $4"

end Sql

end Database

end TableAccess
