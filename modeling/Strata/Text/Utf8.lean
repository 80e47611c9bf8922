/-!
# Texts as bytes

A text is stored as bytes, up to four for each character.  Not all bytes are those of a text; where
they are shown to a reader, what cannot be read is replaced by a mark.
-/

namespace Strata.Text

/-- The bytes that encode a text. -/
def bytes (text : String) : List UInt8 :=
  text.toList.flatMap String.utf8EncodeChar

namespace Utf8

/-- Whether a byte goes on with a character that bytes before it have started. -/
def isNext (b : UInt8) : Bool := 0x80 ≤ b.toNat && b.toNat < 0xC0

/-- Whether the byte `b` may follow `a`, the first one of a character of three or four bytes. -/
def isSecond (a b : UInt8) : Bool :=
  let low := if a.toNat = 0xE0 then 0xA0 else if a.toNat = 0xF0 then 0x90 else 0x80
  let high := if a.toNat = 0xED then 0xA0 else if a.toNat = 0xF4 then 0x90 else 0xC0
  low ≤ b.toNat && b.toNat < high

/-- A character from its parts, the last one being of six bits as all but the first one are. -/
def charOf (parts : List Nat) : Char :=
  Char.ofNat (parts.foldl (fun value part => value * 64 + part % 64) 0)

/-- Reads bytes character by character.  Bytes that start a character and do not finish it stand for
nothing, together, and so does a byte that starts none. -/
def decode : List UInt8 → List (Option Char)
  | [] => []
  | a :: rest =>
    if a.toNat < 0x80 then some (Char.ofNat a.toNat) :: decode rest
    else if 0xC2 ≤ a.toNat ∧ a.toNat < 0xE0 then
      match rest with
      | [] => [none]
      | b :: rest =>
        if isNext b then some (charOf [a.toNat % 32, b.toNat]) :: decode rest
        else none :: decode (b :: rest)
    else if 0xE0 ≤ a.toNat ∧ a.toNat < 0xF0 then
      match rest with
      | [] => [none]
      | b :: rest =>
        if isSecond a b then
          match rest with
          | [] => [none]
          | c :: rest =>
            if isNext c then some (charOf [a.toNat % 16, b.toNat, c.toNat]) :: decode rest
            else none :: decode (c :: rest)
        else none :: decode (b :: rest)
    else if 0xF0 ≤ a.toNat ∧ a.toNat < 0xF5 then
      match rest with
      | [] => [none]
      | b :: rest =>
        if isSecond a b then
          match rest with
          | [] => [none]
          | c :: rest =>
            if isNext c then
              match rest with
              | [] => [none]
              | d :: rest =>
                if isNext d then
                  some (charOf [a.toNat % 8, b.toNat, c.toNat, d.toNat]) :: decode rest
                else none :: decode (d :: rest)
            else none :: decode (c :: rest)
        else none :: decode (b :: rest)
    else none :: decode rest

/-- The mark for what cannot be read. -/
def unreadable : Char := '\ufffd'

/-- The text that bytes show, with a mark wherever they cannot be read. -/
def shown (bytes : List UInt8) : String :=
  String.ofList ((decode bytes).map fun c? => c?.getD unreadable)

end Utf8

end Strata.Text
