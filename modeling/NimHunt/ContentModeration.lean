import NimHunt.Lib.Scan
import NimHunt.Lib.Text

/-!
# Content moderation

`content_moderation.py`: a fixed list of words, matched without regard to case and with white space allowed between
letters; the letters of a match are replaced by `#`.
-/

namespace NimHunt

open Lib

def blockedWords : List String :=
  ["motherfuckers", "motherfucker", "motherfucking", "arseholes", "assholes", "bastards", "bollocks", "fuckers",
    "fucking", "wankers", "arsehole", "asshole", "bitches", "faggots", "niggers", "bastard", "fucked", "fucker",
    "shitting", "wanking", "bitch", "faggot", "nigger", "nigga", "shitty", "wanker", "cunts", "fucks", "shits", "twats",
    "cunt", "fuck", "shit", "twat", "wank"]

/-- The characters beyond ASCII that match an ASCII letter without regard to case: `ſ`, the Kelvin sign, `İ` and `ı`. -/
def foldedLetters : List Char := ['\u017f', '\u212a', '\u0130', '\u0131']

/-- A lower-case letter of the pattern, under `re.IGNORECASE`. -/
def sameLetter (letter c : Char) : Bool :=
  c.toLower = letter || (letter = 's' && c = '\u017f') || (letter = 'k' && c = '\u212a') ||
    (letter = 'i' && (c = '\u0130' || c = '\u0131'))

/-- `[A-Za-z0-9]`, under `re.IGNORECASE`. -/
def isWordChar (c : Char) : Bool := c.isAlphanum || c ∈ foldedLetters

/-- `str.isalpha`, for the characters a match can hold: letters that match one of the pattern, and white space. -/
def isAlpha (c : Char) : Bool := c.isAlpha || c ∈ foldedLetters

/-- White space and a letter, for each of these letters; the answer is the text behind them. -/
def matchLetters : List Char → Text → Option Text
  | [], text => some text
  | letter :: letters, text =>
    match text.dropWhile isSpace with
    | [] => none
    | c :: rest => if sameLetter letter c then matchLetters letters rest else none

/-- `_spaced_word_pattern`: the length of a match at the start of the text. -/
def matchWord (word : List Char) (before : Option Char) (text : Text) : Option ℕ :=
  match word, text with
  | letter :: letters, c :: rest =>
    if before.any isWordChar = false ∧ sameLetter letter c = true then
      (matchLetters letters rest).bind fun tail =>
        if tail.head?.any isWordChar then none else some (text.length - tail.length)
    else none
  | _, _ => none

/-- `_PROFANITY_PATTERN`: the first word of the list that matches here. -/
def findBlocked (before : Option Char) (text : Text) : Option ℕ :=
  blockedWords.findSome? fun word => matchWord word.toList before text

/-- A character of a match in `_mask_match`. -/
def maskLetter (c : Char) : Char := if isAlpha c then '#' else c

def censorText : Option Text → Option Text × Bool
  | none => (none, false)
  | some value =>
    let (censored, replacements) := subn findBlocked maskLetter none 0 value
    (some censored, 0 < replacements)

def containsBlockedWord : Option Text → Bool
  | none => false
  | some value => search findBlocked none value

end NimHunt
