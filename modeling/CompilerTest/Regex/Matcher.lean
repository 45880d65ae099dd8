import CompilerTest.Regex.Basic

/-!
# Matching

A part of a pattern is matched by trying, in order of preference, every way in which it can match
at a place, and handing each one to what comes after it until that succeeds. So a part is a function
of a place, the captures so far and a continuation. Recursion goes over the pattern; the rounds of a
repetition are bounded by the number of characters, because a round that begins where the round
before it began is not tried.
-/

namespace CompilerTest

namespace Regex

/-! ## One character -/

/-- Whether the classes follow the Unicode standard. -/
def unicodeClasses (on : List Switch) : Bool := on.contains .unicodeClasses

/-- Whether a class holds a character. -/
def Category.holds (on : List Switch) (c : Nat) : Category → Bool
  | digit => if unicodeClasses on then Unicode.isDigit c else Unicode.isAsciiDigit c
  | space => if unicodeClasses on then Unicode.isSpace c else Unicode.isAsciiSpace c
  | word => if unicodeClasses on then Unicode.isWord c else Unicode.isAsciiWord c

/-- The lower case of a character. -/
def lowerCase (on : List Switch) (c : Nat) : Nat :=
  if unicodeClasses on then Unicode.lower c else Unicode.asciiLower c

/-- The characters that agree with a lower-case one up to case, as lower-case characters. -/
def variants (on : List Switch) (c : Nat) : List Nat :=
  if unicodeClasses on then c :: Unicode.caseVariants c else [c]

/-- Whether a character has a case. -/
def isCased (on : List Switch) (c : Nat) : Bool :=
  if unicodeClasses on then Unicode.cased.contains c else Unicode.isAsciiLetter c

/-- Whether some character between two has a case. -/
def rangeIsCased (on : List Switch) (lo hi : Nat) : Bool :=
  if unicodeClasses on then
    let flips := Unicode.cased.flips
    Unicode.cased.contains lo ||
      Unicode.Ranges.bisect flips lo (flips.size + 1) 0 flips.size <
        Unicode.Ranges.bisect flips hi (flips.size + 1) 0 flips.size
  else lo ≤ 0x7a && 0x41 ≤ hi && (lo ≤ 0x5a || 0x61 ≤ hi)

/-- Whether a part of a set mentions a character that has a case. -/
def SetItem.isCased (on : List Switch) : SetItem → Bool
  | literal c => Regex.isCased on c
  | range lo hi => rangeIsCased on lo hi
  | category _ _ => false

/-- Whether a part of a set holds a character. -/
def SetItem.holds (on : List Switch) (c : Nat) : SetItem → Bool
  | literal d => c == d
  | range lo hi => lo ≤ c && c ≤ hi
  | category k negated => k.holds on c != negated

/-- The characters whose lower case is `c`. -/
def lowerSources (on : List Switch) (c : Nat) : List Nat :=
  if unicodeClasses on then
    let others := Unicode.lowerPreimages c
    if Unicode.lower c = c then c :: others else others
  else if Unicode.asciiLower c = c then [c, Unicode.asciiUpper c] else []

/-- Whether a part of a set holds a character that agrees with the lower-case `c` up to case. -/
def SetItem.holdsVariant (on : List Switch) (c : Nat) : SetItem → Bool
  | category k negated => k.holds on c != negated
  | item => (variants on c).any fun v => (lowerSources on v).any (item.holds on ·)

/-- Whether a set holds a character. When the case does not matter and the set mentions characters
that have one, the lower case of the character is looked up; where classes follow the environment,
it is enough that the set holds one of the two cases. -/
def setHolds (on : List Switch) (items : List SetItem) (negated : Bool) (c : Nat) : Bool :=
  let holds (c : Nat) : Bool := items.any (·.holds on c) != negated
  if on.contains .ignoreCase && on.contains .environmentClasses then
    holds (Unicode.asciiLower c) || holds (Unicode.asciiUpper c)
  else if on.contains .ignoreCase && items.any (·.isCased on) then
    items.any (·.holdsVariant on (lowerCase on c)) != negated
  else holds c

/-- Whether a character of the pattern stands for the character `c`. -/
def literalHolds (on : List Switch) (d c : Nat) : Bool :=
  if on.contains .ignoreCase && isCased on d then
    (variants on (lowerCase on d)).contains (lowerCase on c)
  else d == c

/-- Whether a test holds of a character. -/
def CharTest.holds (on : List Switch) (c : Nat) : CharTest → Bool
  | any => on.contains .dotAll || c != 0xa
  | literal d negated => literalHolds on d c != negated
  | set items negated => setHolds on items negated c

/-! ## Places -/

/-- The characters that a pattern is matched against. -/
abbrev Subject := Array Nat

/-- Whether a word ends or begins at a place. -/
def atBoundary (on : List Switch) (s : Subject) (i : Nat) : Bool :=
  let wordAt (c : Option Nat) : Bool := (c.map fun c => Category.word.holds on c).getD false
  wordAt (if i = 0 then none else s[i - 1]?) != wordAt s[i]?

/-- Whether a test of a place holds at place `i`. -/
def Anchor.holds (on : List Switch) (s : Subject) (i : Nat) : Anchor → Bool
  | beginning => i == 0 || (on.contains .multiline && s[i - 1]? == some 0xa)
  | ending =>
    i == s.size ||
      (s[i]? == some 0xa && (on.contains .multiline || i + 1 == s.size))
  | beginningOfText => i == 0
  | endOfText => i == s.size
  | boundary => s.size != 0 && atBoundary on s i
  | nonBoundary => s.size != 0 && !atBoundary on s i

/-! ## Rounds -/

/-- What the groups have captured: the two ends of each, from the first group on. -/
abbrev Captures := Array (Option (Nat × Nat))

/-- A way in which a part has matched: the place after it and the captures. -/
abbrev Outcome := Nat × Captures

/-- What comes after a part of a pattern. -/
abbrev Continuation := Nat → Captures → Option Outcome

/-- A part of a pattern as a function of a place, the captures and what comes after it. -/
abbrev Step := Nat → Captures → Continuation → Option Outcome

/-- The bounds of a repetition. -/
structure Bounds where
  /-- The least number of rounds. -/
  least : Nat
  /-- The greatest number of rounds, if there is one. -/
  most : Option Nat

/-- Whether a repetition of `n` rounds that last began at `last` may have another round at `i`. -/
def Bounds.allow (b : Bounds) (n : Nat) (last : Option Nat) (i : Nat) : Bool :=
  (b.most.map fun m => decide (n < m)).getD true && last != some i

/-- As many rounds as possible, then fewer. `n` rounds are done, and the last that was tried beyond
the least number began at `last`. -/
def greedyRounds (step : Step) (b : Bounds) (after : Continuation) :
    Nat → Nat → Option Nat → Continuation
  | 0, _, _ => fun i caps => after i caps
  | fuel + 1, n, last => fun i caps =>
    if n < b.least then step i caps (greedyRounds step b after fuel (n + 1) last)
    else if b.allow n last i then
      match step i caps (greedyRounds step b after fuel (n + 1) (some i)) with
      | some found => some found
      | none => after i caps
    else after i caps

/-- As few rounds as possible, then more. -/
def lazyRounds (step : Step) (b : Bounds) (after : Continuation) :
    Nat → Nat → Option Nat → Continuation
  | 0, _, _ => fun _ _ => none
  | fuel + 1, n, last => fun i caps =>
    if n < b.least then step i caps (lazyRounds step b after fuel (n + 1) last)
    else match after i caps with
      | some found => some found
      | none =>
        if b.allow n last i then step i caps (lazyRounds step b after fuel (n + 1) (some i))
        else none

/-- As many rounds as possible and no fewer, each matched in its preferred way. -/
def possessiveRounds (step : Step) (b : Bounds) :
    Nat → Nat → Option Nat → Nat → Captures → Option Outcome
  | 0, _, _, i, caps => some (i, caps)
  | fuel + 1, n, last, i, caps =>
    if n < b.least then
      match step i caps fun i caps => some (i, caps) with
      | some (i, caps) => possessiveRounds step b fuel (n + 1) last i caps
      | none => none
    else if b.allow n last i then
      match step i caps fun i caps => some (i, caps) with
      | some (j, caps) => possessiveRounds step b fuel (n + 1) (some i) j caps
      | none => some (i, caps)
    else some (i, caps)

/-- The rounds of a repetition. -/
def generalRounds (greed : Greed) (step : Step) (b : Bounds) (size : Nat) : Step :=
  fun i caps after =>
  let fuel := b.least + size + 3
  match greed with
  | .greedy => greedyRounds step b after fuel 0 none i caps
  | .lazy => lazyRounds step b after fuel 0 none i caps
  | .possessive => (possessiveRounds step b fuel 0 none i caps).bind fun (i, caps) => after i caps

/-! ## Rounds of one character -/

/-- The number of characters from place `i` on that a test holds of, at most `n`. -/
def runLength (s : Subject) (p : Nat → Bool) : Nat → Nat → Nat
  | 0, _ => 0
  | n + 1, i =>
    match s[i]? with
    | some c => if p c then runLength s p n (i + 1) + 1 else 0
    | none => 0

/-- The first success among `n`, `n - 1`, …, `least`. -/
def tryDown (attempt : Nat → Option Outcome) (least : Nat) : Nat → Option Outcome
  | 0 => if least = 0 then attempt 0 else none
  | n + 1 =>
    if n + 1 < least then none
    else match attempt (n + 1) with
      | some found => some found
      | none => tryDown attempt least n

/-- The first success among `n`, `n + 1`, …, for `count` numbers. -/
def tryUp (attempt : Nat → Option Outcome) : Nat → Nat → Option Outcome
  | 0, _ => none
  | count + 1, n =>
    match attempt n with
    | some found => some found
    | none => tryUp attempt count (n + 1)

/-- The rounds of a repetition of a single character: the longest run decides what can be tried. -/
def charRounds (greed : Greed) (s : Subject) (p : Nat → Bool) (b : Bounds) : Step :=
  fun i caps after =>
    let room := s.size - i
    let n := runLength s p (b.most.elim room (min room ·)) i
    let attempt (k : Nat) : Option Outcome := after (i + k) caps
    if n < b.least then none
    else match greed with
      | .greedy => tryDown attempt b.least n
      | .lazy => tryUp attempt (n - b.least + 1) b.least
      | .possessive => attempt n

/-! ## Parts of patterns -/

/-- The ends of what a group has captured. -/
def captured? (caps : Captures) (number : Nat) : Option (Nat × Nat) :=
  if number = 0 then none else (caps[number - 1]?).join

/-- Whether the characters from `i` on are the `n` characters from `j` on, up to case if the case
does not matter. -/
def sameText (on : List Switch) (s : Subject) (i j n : Nat) : Bool :=
  let key (c : Nat) : Nat := if on.contains .ignoreCase then lowerCase on c else c
  (List.range n).all fun k => (s[i + k]?).isSome && (s[i + k]?).map key == (s[j + k]?).map key

/-- A part of a pattern, under the switches around it. `groups` gives the widths of groups. -/
def Node.step (groups : Nat → Nat × Nat) (s : Subject) : List Switch → Node → Step
  | _, .empty => fun i caps after => after i caps
  | on, .char test => fun i caps after =>
    match s[i]? with
    | some c => if test.holds on c then after (i + 1) caps else none
    | none => none
  | on, .anchor a => fun i caps after => if a.holds on s i then after i caps else none
  | on, .seq a b => fun i caps after =>
    a.step groups s on i caps fun i caps => b.step groups s on i caps after
  | on, .alt a b => fun i caps after =>
    match a.step groups s on i caps after with
    | some found => some found
    | none => b.step groups s on i caps after
  | on, .repeated greed least most body =>
    match body with
    | .char test => charRounds greed s (fun c => test.holds on c) ⟨least, most⟩
    | body => generalRounds greed (body.step groups s on) ⟨least, most⟩ s.size
  | on, .group number more fewer body => fun i caps after =>
    body.step groups s (Switch.within on more fewer) i caps fun j caps =>
      match number with
      | some n => after j (caps.setIfInBounds (n - 1) (some (i, j)))
      | none => after j caps
  | on, .reference n => fun i caps after =>
    match captured? caps n with
    | some (lo, hi) => if sameText on s i lo (hi - lo) then after (i + (hi - lo)) caps else none
    | none => none
  | on, .conditional n yes no => fun i caps after =>
    if (captured? caps n).isSome then yes.step groups s on i caps after
    else no.step groups s on i caps after
  | on, .look behind negated body => fun i caps after =>
    let back := if behind then (body.width groups).1 else 0
    let found :=
      if i < back then none
      else body.step groups s on (i - back) caps fun i caps => some (i, caps)
    match found, negated with
    | some (_, caps), false => after i caps
    | none, true => after i caps
    | _, _ => none
  | on, .atomic body => fun i caps after =>
    match body.step groups s on i caps fun i caps => some (i, caps) with
    | some (i, caps) => after i caps
    | none => none

/-! ## Search -/

/-- A match: its two ends and what the groups have captured. -/
structure Match where
  /-- The place before it. -/
  start : Nat
  /-- The place after it. -/
  stop : Nat
  /-- The captures. -/
  captures : Captures

end Regex

namespace Regex

/-- The widths of a group of a pattern. -/
def groupWidth (r : Regex) (number : Nat) : Nat × Nat :=
  if number = 0 then (0, 0) else r.widths.getD (number - 1) (0, 0)

/-- The preferred match at a place; an empty one counts only if `emptyAllowed`. -/
def matchAt? (r : Regex) (s : Subject) (emptyAllowed : Bool) (i : Nat) : Option Match :=
  let none? : Captures := Array.replicate r.groups none
  let found := r.root.step r.groupWidth s r.switches i none? fun j caps =>
    if !emptyAllowed && j == i then none else some (j, caps)
  found.map fun (j, caps) => ⟨i, j, caps⟩

/-- The first match at or after place `i`; an empty one at `i` itself counts only if
`emptyAllowed`. -/
def searchFrom? (r : Regex) (s : Subject) : Nat → Bool → Nat → Option Match
  | 0, _, _ => none
  | fuel + 1, emptyAllowed, i =>
    match r.matchAt? s emptyAllowed i with
    | some m => some m
    | none => searchFrom? r s fuel true (i + 1)

/-- Whether a pattern matches somewhere in a text. -/
def occursIn (r : Regex) (s : Subject) : Bool := (r.searchFrom? s (s.size + 1) true 0).isSome

/-- All matches, from left to right. After an empty match the next one at the same place has to take
a character. -/
def matchesFrom (r : Regex) (s : Subject) : Nat → Bool → Nat → List Match
  | 0, _, _ => []
  | fuel + 1, emptyAllowed, i =>
    match r.searchFrom? s (s.size + 1 - i) emptyAllowed i with
    | some m => m :: matchesFrom r s fuel (m.stop != m.start) m.stop
    | none => []

/-- All matches in a text, from left to right. -/
def allMatches (r : Regex) (s : Subject) : List Match := r.matchesFrom s (2 * s.size + 2) true 0

end Regex

end CompilerTest
