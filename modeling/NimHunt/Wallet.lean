import NimHunt.Lib.Text
import NimHunt.Schema

/-!
# Nimiq addresses

`wallet.py`: `NQ`, two check digits, and 32 characters that name the account, in groups of four.
-/

namespace NimHunt

open Lib

def nimiqAddressAlphabet : List Char := "0123456789ABCDEFGHJKLMNPQRSTUVXY".toList

/-- A change of case, with the characters that change in a way of their own. -/
def convertChar (special : List (Char × Text)) (convert : Char → Char) (c : Char) : Text :=
  match special.find? fun row => row.1 = c with
  | some row => row.2
  | none => [convert c]

/-- The characters beyond ASCII whose upper case is in ASCII. -/
def specialUpper : List (Char × Text) :=
  [('ß', ['S', 'S']), ('ı', ['I']), ('ſ', ['S']), ('ﬀ', ['F', 'F']), ('ﬁ', ['F', 'I']), ('ﬂ', ['F', 'L']),
    ('ﬃ', ['F', 'F', 'I']), ('ﬄ', ['F', 'F', 'L']), ('ﬅ', ['S', 'T']), ('ﬆ', ['S', 'T'])]

/-- `str.upper`, one character at a time.  Every other character beyond ASCII keeps one beyond it, and stands for it
here. -/
def upperChar (c : Char) : Text := convertChar specialUpper Char.toUpper c

def upperText (text : Text) : Text := text.flatMap upperChar

/-- `_normalise_address_candidate`. -/
def normaliseAddressCandidate (value : Text) : Text := (words (upperText (strip value))).flatten

/-- The decimal digits of one character; `none` is a `ValueError`. -/
def ibanPart (c : Char) : Option Text :=
  if c.isDigit then some [c]
  else if c.isUpper then some (toString (c.toNat - 'A'.toNat + 10)).toList
  else none

/-- `_iban_rearranged_numeric`. -/
def ibanRearrangedNumeric (addressNoSpaces : Text) : Option Text :=
  ((addressNoSpaces.drop 4 ++ addressNoSpaces.take 4).mapM ibanPart).map List.flatten

/-- `_mod97_decimal_string`. -/
def mod97DecimalString (digits : Text) : ℕ := digits.foldl (fun remainder c => (remainder * 10 + (c.toNat - '0'.toNat)) % 97) 0

/-- `is_valid_nimiq_user_friendly_address`; digits beyond ASCII are refused by the checksum, here at once. -/
def isValidNimiqUserFriendlyAddress (value : Text) : Bool :=
  let address := normaliseAddressCandidate value
  address.length = 36 && ['N', 'Q'].isPrefixOf address && ((address.drop 2).take 2).all Char.isDigit &&
    (address.drop 4).all (fun c => c ∈ nimiqAddressAlphabet) &&
    decide ((ibanRearrangedNumeric address).map mod97DecimalString = some 1)

/-- `address_no_spaces[i : i + 4]` for every fourth `i`. -/
def groupsOfFour : Text → List Text
  | [] => []
  | [a] => [[a]]
  | [a, b] => [[a, b]]
  | [a, b, c] => [[a, b, c]]
  | a :: b :: c :: d :: rest => [a, b, c, d] :: groupsOfFour rest

/-- `_format_user_friendly_address`. -/
def formatUserFriendlyAddress (addressNoSpaces : Text) : Text := joinWords (groupsOfFour addressNoSpaces)

/-- `normalise_nimiq_address` where development placeholders are not allowed. -/
def normaliseNimiqAddress (fieldName : String) (value : Text) : Except Raised Text :=
  let raw := strip value
  if raw = [] then .error (.valueError (fieldName ++ " must be non-empty"))
  else
    let address := normaliseAddressCandidate raw
    if isValidNimiqUserFriendlyAddress address = false then
      .error (.valueError (fieldName ++ " must be a valid Nimiq user-friendly address"))
    else .ok (formatUserFriendlyAddress address)

end NimHunt
