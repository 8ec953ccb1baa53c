import ConfigAudit.Text.Basic

/-! UTF-8: the encoding of a text, and a decoder that drops what is not well formed. -/
namespace ConfigAudit.Utf8

def continuation (n : Nat) : UInt8 := UInt8.ofNat (0x80 + n % 0x40)

def encodeChar (c : Char) : List UInt8 :=
  let n := c.toNat
  if n < 0x80 then [UInt8.ofNat n]
  else if n < 0x800 then [UInt8.ofNat (0xC0 + n / 0x40), continuation n]
  else if n < 0x10000 then
    [UInt8.ofNat (0xE0 + n / 0x1000), continuation (n / 0x40), continuation n]
  else
    [UInt8.ofNat (0xF0 + n / 0x40000), continuation (n / 0x1000), continuation (n / 0x40),
      continuation n]

def encode (t : Text) : List UInt8 := t.flatMap encodeChar

/-- A sequence that has begun: its value so far, how many bytes are still missing, and the bounds
of the next one. -/
structure Partial where
  value : Nat
  missing : Nat
  low : Nat
  high : Nat

/-- The sequence that a lead byte begins. The bounds of its second byte exclude overlong forms,
surrogates and values above U+10FFFF. -/
def Partial.ofLead? (b : UInt8) : Option Partial :=
  let n := b.toNat
  if 0xC2 ≤ n ∧ n ≤ 0xDF then some ⟨n - 0xC0, 1, 0x80, 0xBF⟩
  else if n = 0xE0 then some ⟨0, 2, 0xA0, 0xBF⟩
  else if n = 0xED then some ⟨0xD, 2, 0x80, 0x9F⟩
  else if 0xE1 ≤ n ∧ n ≤ 0xEF then some ⟨n - 0xE0, 2, 0x80, 0xBF⟩
  else if n = 0xF0 then some ⟨0, 3, 0x90, 0xBF⟩
  else if n = 0xF4 then some ⟨4, 3, 0x80, 0x8F⟩
  else if 0xF1 ≤ n ∧ n ≤ 0xF3 then some ⟨n - 0xF0, 3, 0x80, 0xBF⟩
  else none

def Partial.accepts (p : Partial) (b : UInt8) : Bool := p.low ≤ b.toNat && b.toNat ≤ p.high

/-- The sequence with one more continuation byte. -/
def Partial.push (p : Partial) (b : UInt8) : Partial :=
  ⟨p.value * 0x40 + b.toNat % 0x40, p.missing - 1, 0x80, 0xBF⟩

/-- What is read when a byte begins a character or a sequence, or is dropped. -/
def begin (b : UInt8) : Text × Option Partial :=
  if b.toNat < 0x80 then ([Char.ofNat b.toNat], none) else ([], Partial.ofLead? b)

/-- One byte. A byte that cannot continue the open sequence drops it and begins anew. -/
def advance (p : Option Partial) (b : UInt8) : Text × Option Partial :=
  match p with
  | none => begin b
  | some p =>
    if p.accepts b then
      let q := p.push b
      if q.missing = 0 then ([Char.ofNat q.value], none) else ([], some q)
    else begin b

def decodeFrom (p : Option Partial) : List UInt8 → Text
  | [] => []
  | b :: r =>
    let (read, q) := advance p b
    read ++ decodeFrom q r

/-- The characters of the well-formed sequences; each maximal part of a broken one is dropped. -/
def decodeLossy (bytes : List UInt8) : Text := decodeFrom none bytes

/-- No byte is dropped. -/
def isWellFormed (bytes : List UInt8) : Bool := encode (decodeLossy bytes) == bytes

end ConfigAudit.Utf8
