import NimHunt.PendingDepositStore

/-!
# Prizedraw limits in the browser

`static/prizedraw_rules.js`: the limits that the Create Spot form offers, and how it repairs them after a change.
-/

namespace NimHunt.PrizedrawRules

open PendingDeposits

section Numbers

/-- `a < b`; `NaN` is neither below nor above. -/
def less : JsNumber → JsNumber → Bool
  | .nan, _ => false
  | _, .nan => false
  | .infinite negative, .infinite negative' => negative && !negative'
  | .infinite negative, .finite _ => negative
  | .finite _, .infinite negative => !negative
  | .finite value, .finite value' => decide (value < value')

/-- `a <= b`. -/
def atMost (a b : JsNumber) : Bool := decide (a ≠ .nan) && decide (b ≠ .nan) && !less b a

/-- `Number.isFinite`. -/
def isFinite : JsNumber → Bool
  | .finite _ => true
  | _ => false

/-- `Number(value || 0)`. -/
def numberOrZero (js : NumberText) (value : JsValue) : JsNumber := (value.orElse (.number (.finite 0))).toNumber js

end Numbers

section Options

/-- A list of options; `none` is a list that is not given. -/
abbrev OptionList := Option (List JsValue)

def finiteSortedOptions (js : NumberText) (options : OptionList) : List ℚ :=
  let positive := ((options.getD []).map (JsValue.toNumber js)).filterMap fun
    | .finite value => if 0 < value then some value else none
    | _ => none
  positive.eraseDups.mergeSort fun a b => decide (a ≤ b)

def smallestOptionAbove (js : NumberText) (options : OptionList) (value : JsValue) : Option ℚ :=
  (finiteSortedOptions js options).find? fun option => less (value.toNumber js) (.finite option)

def largestOptionBelow (js : NumberText) (options : OptionList) (value : JsValue) : Option ℚ :=
  ((finiteSortedOptions js options).filter fun option => less (.finite option) (value.toNumber js)).getLast?

end Options

section Limits

structure PrizedrawLimits where
  maxClaimsPerUser : JsNumber
  maxTotalClaims : JsNumber
  prizeCount : JsNumber

/-- `limit > 0 && limit >= total`. -/
def tooLarge (limit total : JsNumber) : Bool := less (.finite 0) limit && atMost total limit

def prizedrawLimitsAreValid (js : NumberText) (maxClaimsPerUser maxTotalClaims prizeCount : JsValue)
    (minimumFiniteParticipants : JsValue := .number (.finite 2)) : Bool :=
  let perUser := numberOrZero js maxClaimsPerUser
  let total := numberOrZero js maxTotalClaims
  let prizes := numberOrZero js prizeCount
  if total = .finite 0 then less (.finite 0) prizes
  else if !isFinite total || less total (minimumFiniteParticipants.toNumber js) then false
  else if !isFinite prizes || atMost prizes (.finite 0) || atMost total prizes then false
  else if tooLarge perUser total then false
  else true

/-- `largestOptionBelow(options, total) ?? limit`. -/
def lowered (js : NumberText) (options : OptionList) (limit total : JsNumber) : JsNumber :=
  ((largestOptionBelow js options (.number total)).map .finite).getD limit

/-- One relationship in the first pass: the participants are raised above the limit that the user changed, another
limit is lowered.  Returns the limit and the participants. -/
def firstPass (js : NumberText) (changed : Bool) (participantOptions options : OptionList) (limit total : JsNumber) :
    JsNumber × JsNumber :=
  if tooLarge limit total then
    if changed then (limit, ((smallestOptionAbove js participantOptions (.number limit)).map .finite).getD total)
    else (lowered js options limit total, total)
  else (limit, total)

/-- One relationship in the final pass. -/
def finalPass (js : NumberText) (options : OptionList) (limit total : JsNumber) : JsNumber :=
  if tooLarge limit total then lowered js options limit total else limit

def adjustedPrizedrawLimits (js : NumberText) (changedName : String) (maxClaimsPerUser maxTotalClaims prizeCount : JsValue)
    (participantOptions perUserOptions prizeOptions : OptionList) : PrizedrawLimits :=
  let perUser := numberOrZero js maxClaimsPerUser
  let total := numberOrZero js maxTotalClaims
  let prizes := numberOrZero js prizeCount
  if atMost total (.finite 0) then ⟨perUser, total, prizes⟩
  else
    let (perUser, total) := firstPass js (changedName = "perUser") participantOptions perUserOptions perUser total
    let (prizes, total) := firstPass js (changedName = "prizeCount") participantOptions prizeOptions prizes total
    ⟨finalPass js perUserOptions perUser total, total, finalPass js prizeOptions prizes total⟩

end Limits

end NimHunt.PrizedrawRules
