/-!
# UTF-8

Bytes are read as scalar values, each in its shortest form. Where they are ill
formed, the longest beginning of a well-formed sequence counts as one error.
-/
namespace EdgeReveal.Text

/-- The bytes that may stand second after a leading byte of a longer sequence. -/
def secondByteRange (lead : UInt8) : UInt8 × UInt8 :=
  if lead = 0xE0 then (0xA0, 0xBF)
  else if lead = 0xED then (0x80, 0x9F)
  else if lead = 0xF0 then (0x90, 0xBF)
  else if lead = 0xF4 then (0x80, 0x8F)
  else (0x80, 0xBF)

def isContinuation (b : UInt8) : Bool := 0x80 ≤ b && b ≤ 0xBF

def isSecondByte (lead b : UInt8) : Bool :=
  (secondByteRange lead).1 ≤ b && b ≤ (secondByteRange lead).2

private def payload (b : UInt8) : Nat := b.toNat % 64

/-- Reads bytes as characters; `none` stands for one ill-formed sequence. -/
def scanUtf8 : List UInt8 → List (Option Char)
  | [] => []
  | a :: rest =>
    if a < 0x80 then some (Char.ofNat a.toNat) :: scanUtf8 rest
    else if a < 0xC2 || 0xF4 < a then none :: scanUtf8 rest
    else
      match rest with
      | [] => [none]
      | b :: rest₂ =>
        if !isSecondByte a b then none :: scanUtf8 (b :: rest₂)
        else if a < 0xE0 then
          some (Char.ofNat (a.toNat % 32 * 64 + payload b)) :: scanUtf8 rest₂
        else
          match rest₂ with
          | [] => [none]
          | c :: rest₃ =>
            if !isContinuation c then none :: scanUtf8 (c :: rest₃)
            else if a < 0xF0 then
              some (Char.ofNat ((a.toNat % 16 * 64 + payload b) * 64 + payload c)) ::
                scanUtf8 rest₃
            else
              match rest₃ with
              | [] => [none]
              | d :: rest₄ =>
                if !isContinuation d then none :: scanUtf8 (d :: rest₄)
                else
                  some (Char.ofNat
                    (((a.toNat % 8 * 64 + payload b) * 64 + payload c) * 64 + payload d)) ::
                    scanUtf8 rest₄

/-- The text that well-formed bytes stand for. -/
def decodeUtf8? (bytes : List UInt8) : Option String :=
  (scanUtf8 bytes).mapM id |>.map String.ofList

/-- Every ill-formed sequence becomes one replacement character. -/
def decodeUtf8Lossy (bytes : List UInt8) : String :=
  String.ofList ((scanUtf8 bytes).map (·.getD '\uFFFD'))

def encodeUtf8 (text : String) : List UInt8 := text.toUTF8.toList

end EdgeReveal.Text
