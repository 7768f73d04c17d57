/-
**Bytes and characters.**

Texts arrive as bytes.  The bytes are cut from the left into characters wherever the encoding is
well formed; where it is not, the longest beginning of a character that was cut short is set apart
as one broken run.

Main definitions:

* `Utf8.step` — the first character, or the first broken run, and the bytes after it;
* `Utf8.Piece`, `Utf8.pieces` — a text with its stray bytes kept in place;
* `Utf8.decode?`, `Utf8.decodeLossy` — the text of well-formed bytes, and of any bytes.
-/

set_option relaxedAutoImplicit false
set_option autoImplicit false

namespace TableAccess

namespace Utf8

/-! ### One character -/

/-- The first thing that some bytes hold. -/
inductive Step where
  | done
  | char (c : Char) (rest : List UInt8)
  | broken (run : List UInt8) (rest : List UInt8)

/-- Whether a byte continues a character. -/
def isTail (b : UInt8) : Bool := 0x80 ≤ b && b ≤ 0xbf

/-- Whether a second byte can follow a first byte of a character of three or four bytes: this
excludes encodings that are longer than needed, surrogates, and what lies beyond the last code
point. -/
def secondFits (first second : UInt8) : Bool :=
  if first = 0xe0 then 0xa0 ≤ second && second ≤ 0xbf
  else if first = 0xed then 0x80 ≤ second && second ≤ 0x9f
  else if first = 0xf0 then 0x90 ≤ second && second ≤ 0xbf
  else if first = 0xf4 then 0x80 ≤ second && second ≤ 0x8f
  else isTail second

/-- The payload of a continuing byte. -/
def tailBits (b : UInt8) : Nat := b.toNat - 0x80

/-- The first character or broken run. -/
def step : List UInt8 → Step
  | [] => .done
  | a :: rest =>
      if a < 0x80 then .char (Char.ofNat a.toNat) rest
      else if 0xc2 ≤ a && a ≤ 0xdf then
        match rest with
        | b :: r =>
            if isTail b then .char (Char.ofNat ((a.toNat - 0xc0) * 64 + tailBits b)) r
            else .broken [a] rest
        | [] => .broken [a] rest
      else if 0xe0 ≤ a && a ≤ 0xef then
        match rest with
        | b :: r =>
            if secondFits a b then
              match r with
              | c :: r' =>
                  if isTail c then
                    .char (Char.ofNat (((a.toNat - 0xe0) * 64 + tailBits b) * 64 + tailBits c)) r'
                  else .broken [a, b] r
              | [] => .broken [a, b] r
            else .broken [a] rest
        | [] => .broken [a] rest
      else if 0xf0 ≤ a && a ≤ 0xf4 then
        match rest with
        | b :: r =>
            if secondFits a b then
              match r with
              | c :: r' =>
                  if isTail c then
                    match r' with
                    | d :: r'' =>
                        if isTail d then
                          .char (Char.ofNat ((((a.toNat - 0xf0) * 64 + tailBits b) * 64
                            + tailBits c) * 64 + tailBits d)) r''
                        else .broken [a, b, c] r'
                    | [] => .broken [a, b, c] r'
                  else .broken [a, b] r
              | [] => .broken [a, b] r
            else .broken [a] rest
        | [] => .broken [a] rest
      else .broken [a] rest

/-! ### Whole texts -/

/-- A character, or a byte that belongs to none. -/
inductive Piece where
  | char (c : Char)
  | stray (b : UInt8)
deriving DecidableEq, Inhabited

def Piece.size : Piece → Nat
  | .char c => c.utf8Size
  | .stray _ => 1

def Piece.isChar (p : Piece) (c : Char) : Bool :=
  match p with
  | .char d => d = c
  | .stray _ => false

/-- The pieces of some bytes, gathered in front of those that come after (`acc` holds what was met
so far, last first).  Every step takes at least one byte. -/
def gather : Nat → List UInt8 → List Piece → List Piece
  | 0, _, acc => acc.reverse
  | fuel + 1, bytes, acc =>
      match step bytes with
      | .done => acc.reverse
      | .char c rest => gather fuel rest (.char c :: acc)
      | .broken run rest => gather fuel rest (run.foldl (fun a b => .stray b :: a) acc)

/-- A text with its stray bytes kept in place. -/
def pieces (bytes : List UInt8) : List Piece := gather bytes.length bytes []

/-- The characters, if there are no stray bytes among the pieces. -/
def chars? : List Piece → Option (List Char)
  | [] => some []
  | .char c :: ps => (chars? ps).map (c :: ·)
  | .stray _ :: _ => none

/-- The text of well-formed bytes. -/
def decode? (bytes : List UInt8) : Option String := (chars? (pieces bytes)).map String.ofList

/-- The text of any bytes, with a replacement character for each broken run. -/
def lossyChars : Nat → List UInt8 → List Char
  | 0, _ => []
  | fuel + 1, bytes =>
      match step bytes with
      | .done => []
      | .char c rest => c :: lossyChars fuel rest
      | .broken _ rest => Char.ofNat 0xfffd :: lossyChars fuel rest

def decodeLossy (bytes : List UInt8) : String := String.ofList (lossyChars bytes.length bytes)

def encode (s : String) : List UInt8 := s.toUTF8.toList

def ofString (s : String) : List Piece := s.toList.map .char

end Utf8

end TableAccess
