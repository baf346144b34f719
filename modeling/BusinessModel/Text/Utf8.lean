import BusinessModel.Text.Quoted

/-!
# Strict UTF-8

A byte string is decoded character by character.  The first byte that cannot be part of a character
stops the decoding; the fault tells the bytes of the unfinished character and why it is unfinished:
its first byte starts none, the following byte does not continue it, or the data end inside it.
Overlong forms and surrogates are not characters, so their second byte does not continue them.
-/

namespace BusinessModel.Utf8

/-- Why a byte string is not text. -/
inductive Reason where
  | invalidStart
  | invalidContinuation
  | unexpectedEnd
  deriving DecidableEq, Repr

/-- Where decoding stopped: the position and the bytes of the unfinished character. -/
structure Fault where
  position : Nat
  bytes : List UInt8
  reason : Reason
  deriving DecidableEq, Repr

def Reason.message : Reason → String
  | .invalidStart => "invalid start byte"
  | .invalidContinuation => "invalid continuation byte"
  | .unexpectedEnd => "unexpected end of data"

/-- The report of a fault: one byte is shown, several are located. -/
def Fault.message (f : Fault) : String :=
  let what :=
    match f.bytes with
    | [b] => s!"byte 0x{String.ofList (hexDigits 2 b.toNat)} in position {f.position}"
    | bytes => s!"bytes in position {f.position}-{f.position + bytes.length - 1}"
  s!"'utf-8' codec can't decode {what}: {f.reason.message}"

/-- How many bytes a character with this first byte has. -/
def width? (lead : UInt8) : Option Nat :=
  if lead < 0x80 then some 1
  else if lead < 0xc2 then none
  else if lead < 0xe0 then some 2
  else if lead < 0xf0 then some 3
  else if lead < 0xf5 then some 4
  else none

def isContinuation (b : UInt8) : Bool :=
  0x80 ≤ b && b < 0xc0

/-- Whether a second byte continues a character with this first byte. -/
def continues (lead second : UInt8) : Bool :=
  isContinuation second &&
    !(lead == 0xe0 && second < 0xa0) && !(lead == 0xed && 0xa0 ≤ second) &&
    !(lead == 0xf0 && second < 0x90) && !(lead == 0xf4 && 0x90 ≤ second)

/-- The character of some bytes, by their payload bits. -/
def assemble (lead : UInt8) (rest : List UInt8) : Char :=
  let first := match rest.length with
    | 0 => lead.toNat
    | 1 => lead.toNat % 0x20
    | 2 => lead.toNat % 0x10
    | _ => lead.toNat % 0x08
  Char.ofNat (rest.foldl (fun code b => code * 0x40 + b.toNat % 0x40) first)

/-- Decode from a position on, in front of the characters already read (last first). -/
def decodeFrom (position : Nat) (read : List Char) : List UInt8 → Except Fault (List Char)
  | [] => .ok read.reverse
  | b₀ :: rest₀ =>
    match width? b₀ with
    | none => .error ⟨position, [b₀], .invalidStart⟩
    | some 1 => decodeFrom (position + 1) (assemble b₀ [] :: read) rest₀
    | some width =>
      match rest₀ with
      | [] => .error ⟨position, [b₀], .unexpectedEnd⟩
      | b₁ :: rest₁ =>
        if !continues b₀ b₁ then .error ⟨position, [b₀], .invalidContinuation⟩
        else if width = 2 then decodeFrom (position + 2) (assemble b₀ [b₁] :: read) rest₁
        else
          match rest₁ with
          | [] => .error ⟨position, [b₀, b₁], .unexpectedEnd⟩
          | b₂ :: rest₂ =>
            if !isContinuation b₂ then .error ⟨position, [b₀, b₁], .invalidContinuation⟩
            else if width = 3 then decodeFrom (position + 3) (assemble b₀ [b₁, b₂] :: read) rest₂
            else
              match rest₂ with
              | [] => .error ⟨position, [b₀, b₁, b₂], .unexpectedEnd⟩
              | b₃ :: rest₃ =>
                if !isContinuation b₃ then
                  .error ⟨position, [b₀, b₁, b₂], .invalidContinuation⟩
                else decodeFrom (position + 4) (assemble b₀ [b₁, b₂, b₃] :: read) rest₃

/-- The text of a byte string. -/
def decode (bytes : List UInt8) : Except Fault String :=
  (decodeFrom 0 [] bytes).map String.ofList

/-- The bytes of a character. -/
def encodeChar (c : Char) : List UInt8 :=
  let code := c.toNat
  let continuation (n : Nat) : UInt8 := UInt8.ofNat (0x80 + n % 0x40)
  if code < 0x80 then [UInt8.ofNat code]
  else if code < 0x800 then [UInt8.ofNat (0xc0 + code / 0x40), continuation code]
  else if code < 0x10000 then
    [UInt8.ofNat (0xe0 + code / 0x1000), continuation (code / 0x40), continuation code]
  else
    [UInt8.ofNat (0xf0 + code / 0x40000), continuation (code / 0x1000),
      continuation (code / 0x40), continuation code]

/-- The bytes of a text. -/
def encode (s : String) : List UInt8 :=
  s.toList.flatMap encodeChar

/-- Line ends of a text file: a carriage return, alone or before a line feed, ends a line as a line
feed does. -/
def unifyLines : List Char → List Char
  | [] => []
  | '\r' :: '\n' :: rest => '\n' :: unifyLines rest
  | '\r' :: rest => '\n' :: unifyLines rest
  | c :: rest => c :: unifyLines rest

/-- The text of a text file. -/
def decodeFile (bytes : List UInt8) : Except Fault String :=
  (decode bytes).map fun s => String.ofList (unifyLines s.toList)

end BusinessModel.Utf8
