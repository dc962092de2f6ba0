/-!
Reading bytes as UTF-8 when they may be damaged. Each longest stretch that could have begun a
character but does not finish it is read as one replacement character, and every other byte that
fits nowhere as one of its own.
-/

namespace RowQuery.Text

/-- The character that stands for bytes that are no UTF-8. -/
def replacement : Char := '\uFFFD'

/-- Whether the byte continues a character. -/
def isContinuation (b : UInt8) : Bool := 0x80 ≤ b && b ≤ 0xBF

/-- Whether `second` may follow `lead` in a character of three or four bytes: overlong forms,
surrogates and values beyond the last code point are excluded. -/
def validSecond (lead second : UInt8) : Bool :=
  if lead = 0xE0 then 0xA0 ≤ second && second ≤ 0xBF
  else if lead = 0xED then 0x80 ≤ second && second ≤ 0x9F
  else if lead = 0xF0 then 0x90 ≤ second && second ≤ 0xBF
  else if lead = 0xF4 then 0x80 ≤ second && second ≤ 0x8F
  else isContinuation second

/-- The six value bits of a continuation byte. -/
def lowBits (b : UInt8) : Nat := b.toNat % 64

/-- The text that the bytes spell, with replacement characters where they spell none. -/
def decodeUtf8 : List UInt8 → List Char
  | [] => []
  | b :: rest =>
    if b < 0x80 then Char.ofNat b.toNat :: decodeUtf8 rest
    else if 0xC2 ≤ b && b ≤ 0xDF then
      match rest with
      | c :: after =>
        if isContinuation c then Char.ofNat (b.toNat % 32 * 64 + lowBits c) :: decodeUtf8 after
        else replacement :: decodeUtf8 (c :: after)
      | [] => [replacement]
    else if 0xE0 ≤ b && b ≤ 0xEF then
      match rest with
      | c :: after =>
        if validSecond b c then
          match after with
          | d :: after' =>
            if isContinuation d then
              Char.ofNat ((b.toNat % 16 * 64 + lowBits c) * 64 + lowBits d) :: decodeUtf8 after'
            else replacement :: decodeUtf8 (d :: after')
          | [] => [replacement]
        else replacement :: decodeUtf8 (c :: after)
      | [] => [replacement]
    else if 0xF0 ≤ b && b ≤ 0xF4 then
      match rest with
      | c :: after =>
        if validSecond b c then
          match after with
          | d :: after' =>
            if isContinuation d then
              match after' with
              | e :: after'' =>
                if isContinuation e then
                  Char.ofNat (((b.toNat % 8 * 64 + lowBits c) * 64 + lowBits d) * 64 + lowBits e)
                    :: decodeUtf8 after''
                else replacement :: decodeUtf8 (e :: after'')
              | [] => [replacement]
            else replacement :: decodeUtf8 (d :: after')
          | [] => [replacement]
        else replacement :: decodeUtf8 (c :: after)
      | [] => [replacement]
    else replacement :: decodeUtf8 rest
termination_by bytes => bytes.length

example : decodeUtf8 [0x61, 0xE6, 0x97, 0xA5, 0xE6, 0x97, 0x62, 0xFF]
    = ['a', '日', '\uFFFD', 'b', '\uFFFD'] := by decide +kernel

end RowQuery.Text
