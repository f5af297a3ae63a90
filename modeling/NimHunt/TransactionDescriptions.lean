import NimHunt.Lib.Text
import Mathlib.Data.Int.Order.Basic

/-!
# Transaction descriptions

`transaction_descriptions.py`: `Kind: Title` on one line, cut to a number of bytes without splitting a character.
-/

namespace NimHunt

open Lib

/-- `" ".join(str(value or fallback).split()) or fallback`. -/
def normaliseWords (fallback : Text) (value : Option Text) : Text :=
  let text := match value with
    | none | some [] => fallback
    | some text => text
  let clean := joinWords (words text)
  if clean = [] then fallback else clean

def normaliseTitle (title : Option Text) : Text := normaliseWords "Spot".toList title

def suffix : Text := ['.', '.', '.']

/-- The loop of `_truncate_utf8`: the first `n` bytes, or less until they decode. -/
def decodePrefix (encoded : ByteArray) : ℕ → Text
  | 0 => suffix
  | n + 1 =>
    match (encoded.extract 0 (n + 1)).utf8Decode? with
    | some chars => rstrip chars.toList ++ suffix
    | none => decodePrefix encoded n

/-- `_truncate_utf8`. -/
def truncateUtf8 (value : Text) (maxBytes : ℤ) : Text :=
  let maxBytes := maxBytes.toNat
  let encoded := encodeUtf8 value
  if encoded.size ≤ maxBytes then value
  else if maxBytes = 0 then []
  else if maxBytes ≤ utf8Size suffix then List.replicate maxBytes '.'
  else decodePrefix encoded (maxBytes - utf8Size suffix)

/-- The description before it is cut. -/
def normalisedDescription (kind : Text) (title : Option Text) : Text :=
  normaliseWords "NimHunt".toList (some kind) ++ ": ".toList ++ normaliseTitle title

/-- `build_transaction_description`; the budget is configured, 30 bytes if it is not. -/
def buildTransactionDescription (kind : Text) (title : Option Text) (maxBytes : ℤ) : Text :=
  truncateUtf8 (normalisedDescription kind title) maxBytes

end NimHunt
