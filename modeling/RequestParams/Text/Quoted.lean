import RequestParams.Text.Unprintable

/-!
# Quoted texts

The form in which a text is shown inside a message: between double quotes, with escapes for the
quote, the backslash, four controls, and by number for every character without a visible form.
-/

namespace RequestParams.Text

/-- Digits of a number in base sixteen, letters small. -/
def hexDigits (n : Nat) : List Char := Nat.toDigits 16 n

/-- Control characters, the deleted character and the no-break space. -/
def isControl (c : Char) : Bool :=
  c.toNat < 0x20 || (0x7F ≤ c.toNat && c.toNat ≤ 0xA0)

/-- Characters that a quoted text shows by number. -/
def isShownByNumber (c : Char) : Bool := isControl c || unprintable.contains c

/-- A character inside quotes. -/
def quoteChar (c : Char) : List Char :=
  match c with
  | '\x00' => ['\\', '0']
  | '\t' => ['\\', 't']
  | '\n' => ['\\', 'n']
  | '\r' => ['\\', 'r']
  | '"' => ['\\', '"']
  | '\\' => ['\\', '\\']
  | c =>
    if isShownByNumber c then ['\\', 'u', '\x7b'] ++ hexDigits c.toNat ++ ['\x7d'] else [c]

/-- The text between double quotes, as it is shown in messages. -/
def quote (s : String) : String :=
  String.ofList ('"' :: s.toList.flatMap quoteChar ++ ['"'])

end RequestParams.Text
