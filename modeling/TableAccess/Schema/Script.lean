/-
**The scripts of the schema.**

Each script brings the schema of the database one step further.

Main definitions:

* one text per script, such as `Schema.Script.identity`.
-/

set_option relaxedAutoImplicit false
set_option autoImplicit false

namespace TableAccess

namespace Schema

namespace Script

/-- Users and their roles. -/
def identity : String :=
  "CREATE TABLE users ( id BIGSERIAL PRIMARY KEY, username TEXT NOT NULL UNIQUE, "
    ++ "first_name TEXT NOT NULL DEFAULT '', last_name TEXT NOT NULL DEFAULT '', email TEXT "
    ++ "UNIQUE, active BOOLEAN NOT NULL DEFAULT TRUE, created_at TIMESTAMPTZ NOT NULL DEFAULT "
    ++ "now() ); "
    ++ "CREATE TABLE roles ( id BIGSERIAL PRIMARY KEY, name TEXT NOT NULL UNIQUE ); "
    ++ "CREATE TABLE user_roles ( user_id BIGINT NOT NULL REFERENCES users (id) ON DELETE "
    ++ "CASCADE, role_id BIGINT NOT NULL REFERENCES roles (id) ON DELETE CASCADE, PRIMARY KEY "
    ++ "(user_id, role_id) ); "
    ++ "CREATE TABLE user_attributes ( id BIGSERIAL PRIMARY KEY, user_id BIGINT NOT NULL "
    ++ "UNIQUE REFERENCES users (id) ON DELETE CASCADE, created_at TIMESTAMPTZ NOT NULL "
    ++ "DEFAULT now(), changed_at TIMESTAMPTZ NOT NULL DEFAULT now(), created_by BIGINT "
    ++ "REFERENCES users (id) ON DELETE SET NULL, changed_by BIGINT REFERENCES users (id) ON "
    ++ "DELETE SET NULL ); "
    ++ "INSERT INTO roles (name) VALUES ('Admin'), ('Gamma') ON CONFLICT (name) DO NOTHING;"

/-- The keys of users. -/
def userAttributesAccessKey : String :=
  "ALTER TABLE user_attributes ADD COLUMN access_key VARCHAR(36); "
    ++ "CREATE UNIQUE INDEX user_attributes_access_key_idx ON user_attributes (access_key);"

/-- Capabilities, grants and the links between them. -/
def tablePermissions : String :=
  "CREATE TABLE data_tables ( id BIGSERIAL PRIMARY KEY, database_name TEXT NOT NULL, "
    ++ "table_name TEXT NOT NULL, perm TEXT UNIQUE, UNIQUE (database_name, table_name) ); "
    ++ "CREATE TABLE capabilities ( id BIGSERIAL PRIMARY KEY, permission_name TEXT NOT NULL, "
    ++ "resource_name TEXT NOT NULL, UNIQUE (permission_name, resource_name) ); "
    ++ "CREATE TABLE permission_grants ( id BIGSERIAL PRIMARY KEY, user_id BIGINT NOT NULL "
    ++ "REFERENCES users (id) ON DELETE CASCADE, apply_date DATE NOT NULL DEFAULT "
    ++ "CURRENT_DATE, expire_date DATE NOT NULL, force_terminate_at TIMESTAMPTZ, is_active "
    ++ "BOOLEAN NOT NULL DEFAULT TRUE, created_at TIMESTAMPTZ NOT NULL DEFAULT now(), "
    ++ "created_by BIGINT REFERENCES users (id) ON DELETE SET NULL, changed_at TIMESTAMPTZ "
    ++ "NOT NULL DEFAULT now(), changed_by BIGINT REFERENCES users (id) ON DELETE SET NULL, "
    ++ "CHECK (expire_date >= apply_date), CHECK (force_terminate_at IS NULL OR is_active = "
    ++ "FALSE) ); "
    ++ "CREATE INDEX permission_grants_user_idx ON permission_grants (user_id, is_active); "
    ++ "CREATE TABLE permission_grant_capabilities ( grant_id BIGINT NOT NULL REFERENCES "
    ++ "permission_grants (id) ON DELETE CASCADE, capability_id BIGINT NOT NULL REFERENCES "
    ++ "capabilities (id) ON DELETE CASCADE, PRIMARY KEY (grant_id, capability_id) );"

/-- The audit log. -/
def auditLogEntries : String :=
  "CREATE TABLE audit_log_entries ( id BIGSERIAL PRIMARY KEY, action TEXT NOT NULL, "
    ++ "actor_id BIGINT, duration_ms BIGINT NOT NULL DEFAULT 0, payload JSONB NOT NULL "
    ++ "DEFAULT '\x7b\x7d'::JSONB, error TEXT, created_at TIMESTAMPTZ NOT NULL DEFAULT now() "
    ++ "); "
    ++ "CREATE INDEX audit_log_entries_created_idx ON audit_log_entries (created_at DESC); "
    ++ "CREATE INDEX audit_log_entries_action_idx ON audit_log_entries (action, created_at "
    ++ "DESC);"

end Script

end Schema

end TableAccess
