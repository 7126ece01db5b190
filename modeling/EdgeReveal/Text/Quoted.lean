import EdgeReveal.Text.Hex
import EdgeReveal.Text.Unprintable

/-!
# Quoted text

Messages show a path, a command or a reply between double quotes, so that
every character of it can be told from the text around it.
-/
namespace EdgeReveal.Text

def quoteChar (c : Char) : List Char :=
  match c with
  | '"' => ['\\', '"']
  | '\\' => ['\\', '\\']
  | '\t' => ['\\', 't']
  | '\n' => ['\\', 'n']
  | '\r' => ['\\', 'r']
  | '\x00' => ['\\', '0']
  | c => if isUnprintable c then ['\\', 'u', '\x7b'] ++ hexDigits c.toNat ++ ['\x7d'] else [c]

def quote (text : String) : String :=
  String.ofList (['"'] ++ text.toList.flatMap quoteChar ++ ['"'])

end EdgeReveal.Text
