import CompilerTest.Regex.Cursor

/-!
# Reading patterns

The tree of a pattern, or the first thing that is wrong with it. Groups may be nested to a fixed
depth; `Level` holds the readers for what is inside a group, so that recursion goes over the depth
that is left.
-/

namespace CompilerTest

namespace Regex

/-! ## Escapes -/

/-- The control character that a letter after a backslash stands for, and the backslash itself. -/
def controlEscape? (c : Nat) : Option Nat :=
  ([('a', 0x7), ('b', 0x8), ('f', 0xc), ('n', 0xa), ('r', 0xd), ('t', 0x9), ('v', 0xb),
    ('\\', 0x5c)].find? fun (letter, _) => letter.toNat = c).map Prod.snd

/-- The class that a letter after a backslash stands for. -/
def categoryEscape? (c : Nat) : Option SetItem :=
  ([('d', SetItem.category .digit false), ('D', .category .digit true),
    ('s', .category .space false), ('S', .category .space true),
    ('w', .category .word false), ('W', .category .word true)].find?
      fun (letter, _) => letter.toNat = c).map Prod.snd

/-- The place that a letter after a backslash stands for. -/
def anchorEscape? (c : Nat) : Option Anchor :=
  ([('A', Anchor.beginningOfText), ('b', .boundary), ('B', .nonBoundary),
    ('Z', .endOfText)].find? fun (letter, _) => letter.toNat = c).map Prod.snd

/-- The value of digits in a base. -/
def valueOf (base : Nat) (digits : List Nat) : Nat :=
  digits.foldl (fun n d => base * n + (Unicode.hexValue? d).getD 0) 0

/-- Reads an escape of exactly `n` hexadecimal digits after the letter `c`. -/
def hexEscape (c n : Nat) : Reading Nat := do
  let ds ← takeWhile n fun d => (Unicode.hexValue? d).isSome
  let written := 0x5c :: c :: ds
  if ds.length ≠ n then fail (.incompleteEscape (textOf written)) written.length
  else
    let value := valueOf 16 ds
    if value < 0x110000 then return value
    else if value ≥ 0x80000000 then throw .hugeCharacter
    else fail (.badEscape (textOf written)) written.length

/-- Reads the braces and the name of a character. The table of the names of characters is left out:
no name is known, and one that stands for a character is refused like any other. -/
def namedEscape : Reading Nat := do
  if ← accept '\x7b' then
    let name ← takeName '\x7d' "character name"
    fail (.unknownCharacterName (textOf name)) (name.length + 4)
  else fail (.missing "\x7b") 0

/-- Reads the escapes that stand for a character by its number or its name; nothing if the letter
begins no such escape. -/
def codeEscape? (c : Nat) : Reading (Option Nat) := do
  let overText := (← get).overText
  if c = 'x'.toNat then return some (← hexEscape c 2)
  else if c = 'u'.toNat && overText then return some (← hexEscape c 4)
  else if c = 'U'.toNat && overText then return some (← hexEscape c 8)
  else if c = 'N'.toNat && overText then return some (← namedEscape)
  else return none

/-- Refuses an octal escape above the greatest byte. -/
def octalValue (ds : List Nat) : Reading Nat := do
  let value := valueOf 8 ds
  if value > 0o377 then fail (.octalTooLarge (textOf (0x5c :: ds))) (ds.length + 1)
  else return value

/-- The character of an escape that means the character itself; letters and digits are reserved. -/
def selfEscape (c : Nat) : Reading Nat := do
  if Unicode.isAsciiLetter c || Unicode.isAsciiDigit c then
    fail (.badEscape (textOf [0x5c, c])) 2
  else return c

/-- Reads an escape inside a set, after its backslash and the character `c`. -/
def setEscape (c : Nat) : Reading SetItem := do
  match controlEscape? c, categoryEscape? c with
  | some code, _ => return .literal code
  | none, some item => return item
  | none, none =>
    match ← codeEscape? c with
    | some code => return .literal code
    | none =>
      if Unicode.isOctalDigit c then
        let ds ← takeWhile 2 Unicode.isOctalDigit
        return .literal (← octalValue (c :: ds))
      else return .literal (← selfEscape c)

/-- Refers to a group by its number; `back` is where a complaint stands. -/
def referTo (number back : Nat) : Reading Node := do
  if ((← get).groupWidth? number).isNone then fail .openGroup back
  else
    checkLookbehind number
    return .reference number

/-- Reads an escape that begins with the digit `c`, which is not zero: three octal digits are a
character, and everything else refers to a group. -/
def digitEscape (c : Nat) : Reading Node := do
  let more ← takeWhile 1 Unicode.isAsciiDigit
  let octal := Unicode.isOctalDigit c && !more.isEmpty && more.all Unicode.isOctalDigit
  let third ← if octal then takeWhile 1 Unicode.isOctalDigit else pure []
  if third.isEmpty then
    let number := valueOf 10 (c :: more)
    if number < (← get).groupCount then referTo number (more.length + 2)
    else fail (.badReference number) (more.length + 1)
  else return .char (.literal (← octalValue (c :: more ++ third)) false)

/-- Reads an escape outside sets, after its backslash and the character `c`. -/
def patternEscape (c : Nat) : Reading Node := do
  match anchorEscape? c, categoryEscape? c, controlEscape? c with
  | some a, _, _ => return .anchor a
  | none, some item, _ => return .char (.set [item] false)
  | none, none, some code => return .char (.literal code false)
  | none, none, none =>
    match ← codeEscape? c with
    | some code => return .char (.literal code false)
    | none =>
      if c = '0'.toNat then
        let ds ← takeWhile 2 Unicode.isOctalDigit
        return .char (.literal (valueOf 8 ds) false)
      else if Unicode.isAsciiDigit c then digitEscape c
      else return .char (.literal (← selfEscape c) false)

/-! ## Sets -/

/-- Reads one end of a range or a single part of a set, whose first token has been taken. -/
def setPart : Token → Reading SetItem
  | .escape c => setEscape c
  | .plain c => return .literal c

/-- The range between two parts of a set, written as `first` and `last`. -/
def setRange (lo hi : SetItem) (first last : Token) : Reading SetItem := do
  let bad : Reading SetItem :=
    fail (.badRange first.text last.text) (first.size + 1 + last.size)
  match lo, hi with
  | .literal lo, .literal hi => if hi < lo then bad else return .range lo hi
  | _, _ => bad

/-- Reads the parts of a set up to its closing bracket. `start` is the place of the opening bracket,
`acc` holds the parts so far. -/
def setParts (start : Nat) (fuel : Nat) (acc : List SetItem) : Reading (List SetItem) :=
  match fuel with
  | 0 => return acc
  | fuel + 1 => do
    match ← next with
    | none => fail .unterminatedSet ((← here) - start)
    | some first =>
      if first.is ']' && !acc.isEmpty then return acc
      else
        let lo ← setPart first
        if ← accept '-' then
          match ← next with
          | none => fail .unterminatedSet ((← here) - start)
          | some last =>
            if last.is ']' then return acc ++ [lo, .literal '-'.toNat]
            else
              let hi ← setPart last
              let range ← setRange lo hi first last
              setParts start fuel (acc ++ [range])
        else setParts start fuel (acc ++ [lo])

/-- Reads a set whose opening bracket has been taken. A set of one character is that character. -/
def readSet : Reading Node := do
  let start := (← here) - 1
  let negated ← accept '^'
  let items ← setParts start (← rounds) []
  match items.eraseDups with
  | [.literal c] => return .char (.literal c negated)
  | items => return .char (.set items negated)

/-! ## Repetitions -/

/-- Bounds of repetitions are below this one, which stands for none. -/
def repeatLimit : Nat := 4294967295

/-- The value of a bound. -/
def boundOf (ds : List Nat) : Reading Nat := do
  if ds.length > Text.digitLimit then throw (.tooLong ds.length)
  let n := valueOf 10 ds
  if n ≥ repeatLimit then throw .hugeRepeat
  return n

/-- Reads bounds in braces after the opening one. Without a closing brace there are no bounds. -/
def readBounds : Reading (Option (Nat × Option Nat)) := do
  let start ← here
  let size ← rounds
  if ← nextIs '\x7d' then return none
  let lo ← takeWhile size Unicode.isAsciiDigit
  let hi ← if ← accept ',' then takeWhile size Unicode.isAsciiDigit else pure lo
  if !(← accept '\x7d') then
    seek start
    return none
  let least ← if lo.isEmpty then pure 0 else boundOf lo
  if hi.isEmpty then return some (least, none)
  let most ← boundOf hi
  if most < least then fail .repeatBounds ((← here) - start)
  return some (least, some most)

/-- Whether a token begins a repetition. -/
def Token.isQuantifier (t : Token) : Bool := t.isIn "*+?\x7b"

/-- Reads the bounds of a repetition whose first token has been taken. -/
def quantifier (t : Token) : Reading (Option (Nat × Option Nat)) := do
  if t.is '?' then return some (0, some 1)
  else if t.is '*' then return some (0, none)
  else if t.is '+' then return some (1, none)
  else readBounds

/-- Which number of rounds is tried first. -/
def readGreed : Reading Greed := do
  if ← accept '?' then return .lazy
  else if ← accept '+' then return .possessive
  else return .greedy

/-- What a repetition repeats: the content of a group that only encloses, or the part itself. -/
def repeatedPart : Node → Node
  | .group none [] [] body => body
  | part => part

/-- Repeats the last of the parts so far, which are in reverse. `back` leads to the place of the
quantifier. -/
def repeatLast (parts : List Node) (bounds : Nat × Option Nat) (start size : Nat) :
    Reading (List Node) := do
  let back := (← here) - start + size
  match parts with
  | [] => fail .nothingToRepeat back
  | .anchor _ :: _ => fail .nothingToRepeat back
  | .repeated .. :: _ => fail .multipleRepeat back
  | part :: before =>
    let greed ← readGreed
    return .repeated greed bounds.1 bounds.2 (repeatedPart part) :: before

/-! ## Switches -/

/-- Adds a switch to those that are turned on. -/
def addSwitch (on : List Switch) (s : Switch) : Reading (List Switch) := do
  let overText := (← get).overText
  if s = .environmentClasses && overText then fail .environmentSwitchOnText 0
  else if s = .unicodeClasses && !overText then fail .unicodeSwitchOnBytes 0
  else
    let on := if on.contains s then on else on ++ [s]
    if s.choosesClasses && (on.filter Switch.choosesClasses) ≠ [s] then
      fail .conflictingSwitches 0
    else return on

/-- The switch of a token. -/
def Token.switch? : Token → Option Switch
  | .plain c => Switch.ofLetter? c
  | .escape _ => none

/-- Whether a token is a single letter of any script. -/
def Token.isLetter : Token → Bool
  | .plain c => Unicode.alphabetic.contains c
  | .escape _ => false

/-- Refuses a token among switches; `what` is what is missing if it is no letter. -/
def badSwitch {α : Type} (t : Token) (what : String) : Reading α :=
  if t.isLetter then fail .unknownSwitch t.size else fail (.missing what) t.size

/-- Reads the switches that are turned on, the first of which is `s`, and the token after them. -/
def switchesOn (fuel : Nat) (on : List Switch) (s : Switch) : Reading (List Switch × Token) :=
  match fuel with
  | 0 => return (on, .plain 0)
  | fuel + 1 => do
    let on ← addSwitch on s
    match ← next with
    | none => fail (.missing "-, : or )") 0
    | some t =>
      if t.isIn ")-:" then return (on, t)
      else match t.switch? with
        | some s => switchesOn fuel on s
        | none => badSwitch t "-, : or )"

/-- Reads the switches that are turned off, the first of which is `s`, and the colon after them. -/
def switchesOff (fuel : Nat) (off : List Switch) (s : Switch) : Reading (List Switch) :=
  match fuel with
  | 0 => return off
  | fuel + 1 => do
    if s.choosesClasses then fail .classSwitchOff 0
    let off := if off.contains s then off else off ++ [s]
    match ← next with
    | none => fail (.missing ":") 0
    | some t =>
      if t.is ':' then return off
      else match t.switch? with
        | some s => switchesOff fuel off s
        | none => badSwitch t ":"

/-- Reads switches whose first token has been taken. Nothing if they are for the whole pattern;
otherwise those that a group turns on and off. -/
def readSwitches (first : Token) : Reading (Option (List Switch × List Switch)) := do
  let fuel ← rounds
  let (on, t) ← match first.switch? with
    | some s => switchesOn fuel [] s
    | none => pure ([], first)
  if t.is ')' then
    modify fun c => { c with switches := c.switches ++ on.filter (!c.switches.contains ·) }
    return none
  if on.any Switch.isGlobal then fail .globalSwitchOn 1
  let off ← if t.is '-' then
      match ← next with
      | none => fail (.missing "flag") 0
      | some t =>
        match t.switch? with
        | some s => switchesOff fuel [] s
        | none => badSwitch t "flag"
    else pure []
  if off.any Switch.isGlobal then fail .globalSwitchOff 1
  if on.any off.contains then fail .switchOnAndOff 1
  return some (on, off)

/-! ## Groups -/

/-- The readers for what is inside a group: alternatives, and a single one of them. Both take
whether blanks are skipped. -/
structure Level where
  /-- Reads alternatives. -/
  alternatives : Bool → Reading Node
  /-- Reads a single alternative. -/
  branch : Bool → Reading Node

/-- Takes the closing parenthesis of a group that was opened at `start`. -/
def closing (start : Nat) : Reading Unit := do
  if !(← accept ')') then fail .unterminatedGroup ((← here) - start)

/-- Refuses a name that is no identifier. -/
def checkName (name : List Nat) : Reading Unit := do
  if !Unicode.isIdentifier name then fail (.badGroupName (textOf name)) (name.length + 1)

/-- Reads a reference by name, after the equals sign. -/
def namedReference : Reading Node := do
  let name ← takeName ')' "group name"
  checkName name
  let c ← get
  match c.names.lookup (textOf name) with
  | none => fail (.unknownGroupName (textOf name)) (name.length + 1)
  | some number => referTo number (name.length + 1)

/-- Skips a comment that was opened at `start`. -/
def skipComment (start : Nat) (fuel : Nat) : Reading Unit :=
  match fuel with
  | 0 => return
  | fuel + 1 => do
    match ← next with
    | none => fail .unterminatedComment ((← here) - start)
    | some t => if t.is ')' then return else skipComment start fuel

/-- Reads what has to be, or not to be, ahead or behind. -/
def readLook (level : Level) (verbose behind negated : Bool) (start : Nat) : Reading Node := do
  let outer := (← get).lookbehind
  if behind && outer.isNone then
    modify fun c => { c with lookbehind := some c.groupCount }
  let body ← level.alternatives verbose
  if behind then modify fun c => { c with lookbehind := outer }
  closing start
  return .look behind negated body

/-- The number of the group that a condition names, by name or by number. -/
def conditionGroup (name : List Nat) : Reading Nat := do
  let text := textOf name
  let back := name.length + 1
  if Unicode.isIdentifier name then
    match (← get).names.lookup text with
    | some number => return number
    | none => fail (.unknownGroupName text) back
  else
    match Text.integer? text with
    | .error _ => fail (.badGroupName text) back
    | .ok n =>
      if n < 0 then fail (.badGroupName text) back
      else if n = 0 then fail .badGroupNumber back
      else if n.toNat ≥ 1073741823 then fail (.badReference n.toNat) back
      else
        let place := (← here) - back
        modify fun c =>
          if c.conditions.any fun (g, _) => g = n.toNat then c
          else { c with conditions := c.conditions ++ [(n.toNat, place)] }
        return n.toNat

/-- Reads a condition and its branches, after the second parenthesis. -/
def readConditional (level : Level) (verbose : Bool) (start : Nat) : Reading Node := do
  let number ← conditionGroup (← takeName ')' "group name")
  checkLookbehind number
  let yes ← level.branch verbose
  let no ← if ← accept '|' then
      let no ← level.branch verbose
      if ← nextIs '|' then fail .threeBranches 0
      pure no
    else pure .empty
  closing start
  return .conditional number yes no

/-- Reads the content of a group that turns switches on and off. -/
def readEnclosed (level : Level) (verbose : Bool) (on off : List Switch) (start : Nat) :
    Reading Node := do
  let verbose := (verbose || on.contains .verbose) && !off.contains .verbose
  let body ← level.alternatives verbose
  closing start
  return body

/-- Reads the content of a group that captures. -/
def readCapturing (level : Level) (verbose : Bool) (name : Option (List Nat)) (start : Nat) :
    Reading Node := do
  let number ← openGroup (name.map textOf) ((name.map List.length).getD 0 + 1)
  let body ← readEnclosed level verbose [] [] start
  closeGroup number body
  return .group (some number) [] [] body

/-- What an opening parenthesis leads to. -/
inductive Opened where
  /-- A part of the pattern. -/
  | part (node : Node)
  /-- A comment. -/
  | comment
  /-- Switches for the whole pattern. -/
  | switches

/-- Reads an extension that begins with the letter `P`. -/
def readNamed (level : Level) (verbose : Bool) (start : Nat) : Reading Node := do
  if ← accept '<' then
    let name ← takeName '>' "group name"
    checkName name
    readCapturing level verbose (some name) start
  else if ← accept '=' then namedReference
  else
    match ← next with
    | none => fail .endOfPattern 0
    | some t => fail (.unknownExtension ("?P" ++ t.text)) (t.size + 2)

/-- Reads a look-behind, after the angle bracket. -/
def readBehind (level : Level) (verbose : Bool) (start : Nat) : Reading Node := do
  match ← next with
  | none => fail .endOfPattern 0
  | some t =>
    if t.isIn "=!" then readLook level verbose true (t.is '!') start
    else fail (.unknownExtension ("?<" ++ t.text)) (t.size + 2)

/-- Reads an extension, after the question mark. -/
def readExtension (level : Level) (verbose : Bool) (start : Nat) : Reading Opened := do
  match ← next with
  | none => fail .endOfPattern 0
  | some t =>
    if t.is 'P' then return .part (← readNamed level verbose start)
    else if t.is ':' then
      return .part (.group none [] [] (← readEnclosed level verbose [] [] start))
    else if t.is '#' then
      skipComment start (← rounds)
      return .comment
    else if t.isIn "=!" then return .part (← readLook level verbose false (t.is '!') start)
    else if t.is '<' then return .part (← readBehind level verbose start)
    else if t.is '(' then return .part (← readConditional level verbose start)
    else if t.is '>' then return .part (.atomic (← readEnclosed level verbose [] [] start))
    else if t.switch?.isSome || t.is '-' then
      match ← readSwitches t with
      | none => return .switches
      | some (on, off) =>
        return .part (.group none on off (← readEnclosed level verbose on off start))
    else fail (.unknownExtension ("?" ++ t.text)) (t.size + 1)

/-- Reads a group whose opening parenthesis has been taken. -/
def readGroup (level : Level) (verbose : Bool) (start : Nat) : Reading Opened := do
  if ← accept '?' then readExtension level verbose start
  else return .part (← readCapturing level verbose none start)

/-! ## Sequences and alternatives -/

/-- Skips the rest of a line. -/
def skipLine (fuel : Nat) : Reading Unit :=
  match fuel with
  | 0 => return
  | fuel + 1 => do
    match ← next with
    | none => return
    | some t => if t.is '\n' then return else skipLine fuel

/-- Reads a single alternative. `parts` holds the parts so far in reverse, and `first` tells whether
switches for the whole pattern may still come. -/
def readParts (level : Level) (first : Bool) (fuel : Nat) (verbose : Bool) (parts : List Node) :
    Reading Node :=
  match fuel with
  | 0 => return .ofList parts.reverse
  | fuel + 1 => do
    match ← peek with
    | none => return .ofList parts.reverse
    | some t =>
      if t.isIn "|)" then return .ofList parts.reverse
      let start ← here
      let _ ← next
      if verbose && t.isIn " \t\n\r\x0b\x0c" then readParts level first fuel verbose parts
      else if verbose && t.is '#' then
        skipLine (← rounds)
        readParts level first fuel verbose parts
      else match t with
        | .escape c =>
          let part ← patternEscape c
          readParts level first fuel verbose (part :: parts)
        | .plain c =>
          if t.is '[' then
            let part ← readSet
            readParts level first fuel verbose (part :: parts)
          else if t.isQuantifier then
            let after ← here
            match ← quantifier t with
            | none => readParts level first fuel verbose (.char (.literal c false) :: parts)
            | some bounds =>
              let parts ← repeatLast parts bounds after t.size
              readParts level first fuel verbose parts
          else if t.is '.' then readParts level first fuel verbose (.char .any :: parts)
          else if t.is '(' then
            match ← readGroup level verbose start with
            | .part part => readParts level first fuel verbose (part :: parts)
            | .comment => readParts level first fuel verbose parts
            | .switches =>
              if !first || !parts.isEmpty then fail .lateSwitches ((← here) - start)
              readParts level first fuel ((← get).switches.contains .verbose) parts
          else if t.is '^' then readParts level first fuel verbose (.anchor .beginning :: parts)
          else if t.is '$' then readParts level first fuel verbose (.anchor .ending :: parts)
          else readParts level first fuel verbose (.char (.literal c false) :: parts)

/-- Reads a single alternative. -/
def readBranch (level : Level) (first verbose : Bool) : Reading Node := do
  readParts level first (← rounds) verbose []

/-- Reads alternatives. At the top of a pattern, switches for the whole pattern may come first, and
whether blanks are skipped is decided anew for each alternative. -/
def readAlternatives (level : Level) (top : Bool) (fuel : Nat) (first verbose : Bool) :
    Reading (List Node) :=
  match fuel with
  | 0 => return []
  | fuel + 1 => do
    let branch ← readBranch level first verbose
    if ← accept '|' then
      let on := (← get).switches
      let verbose := if top then on.contains .verbose else verbose
      return branch :: (← readAlternatives level top fuel false verbose)
    else return [branch]

/-- Reads the alternatives inside a group. -/
def readInner (level : Level) (verbose : Bool) : Reading Node := do
  let branches ← readAlternatives level false (← rounds) false verbose
  return .ofAlternatives branches

/-- The readers for what is inside a group when groups may be nested `depth` deep in it. -/
def levelOf : Nat → Level
  | 0 => ⟨fun _ => throw .tooDeep, fun _ => throw .tooDeep⟩
  | depth + 1 =>
    let inner := levelOf depth
    ⟨fun verbose => readInner inner verbose, fun verbose => readBranch inner false verbose⟩

/-- How deep groups may be nested. Where reading really ends depends on how much of the stack is in
use when it begins, which is left out: this is the number for a reader that is called directly. -/
def nestingLimit : Nat := 488

/-! ## Whole patterns -/

/-- Settles the switches of a whole pattern: classes of texts follow the Unicode standard unless the
pattern says otherwise. -/
def settleSwitches (overText : Bool) (on : List Switch) : Except Error (List Switch) :=
  if overText then
    if on.contains .asciiClasses then
      if on.contains .unicodeClasses then .error (.excludingSwitches "ASCII" "UNICODE") else .ok on
    else .ok (if on.contains .unicodeClasses then on else .unicodeClasses :: on)
  else if on.contains .environmentClasses && on.contains .asciiClasses then
    .error (.excludingSwitches "ASCII" "LOCALE")
  else .ok on

/-- The name of a repetition in complaints. -/
def Greed.operator : Greed → String
  | greedy => "MAX_REPEAT"
  | lazy => "MIN_REPEAT"
  | possessive => "POSSESSIVE_REPEAT"

/-- The first part of a pattern that cannot be used: a look-behind whose width is not fixed, or a
repetition where repetitions are refused. -/
def Node.defect? (groups : Nat → Nat × Nat) (refuseRepeats : Bool) : Node → Option Defect
  | seq a b => (a.defect? groups refuseRepeats).or (b.defect? groups refuseRepeats)
  | alt a b => (a.defect? groups refuseRepeats).or (b.defect? groups refuseRepeats)
  | repeated greed _ _ body =>
    if refuseRepeats then some (.repeatRefused greed.operator)
    else body.defect? groups refuseRepeats
  | group _ _ _ body => body.defect? groups refuseRepeats
  | conditional _ yes no =>
    (yes.defect? groups refuseRepeats).or (no.defect? groups refuseRepeats)
  | look behind _ body =>
    let (lo, hi) := body.width groups
    if behind && lo > 0xffffffff then some .wideLookbehind
    else if behind && lo ≠ hi then some .variableLookbehind
    else body.defect? groups refuseRepeats
  | atomic body => body.defect? groups refuseRepeats
  | _ => none

/-- Reads all of a pattern. -/
def readPattern : Reading Regex := do
  let branches ← readAlternatives (levelOf nestingLimit) true (← rounds) true false
  let c ← get
  let switches ← settleSwitches c.overText c.switches
  if !c.rest.isEmpty then fail .unbalanced 0
  match c.conditions.find? fun (g, _) => g ≥ c.groupCount with
  | some (g, place) =>
    throw (.malformed (.badReference g) (some (Place.of c.pattern place)) c.overText)
  | none => pure ()
  let root := Node.ofAlternatives branches
  match root.defect? c.groupWidth (switches.contains .noRepeats) with
  | some defect => throw (.malformed defect none c.overText)
  | none =>
    return { overText := c.overText, root, switches, names := c.names
             widths := c.widths.map (·.getD (0, 0)) }

/-- Reads a pattern, given as code points. -/
def compile (overText : Bool) (pattern : List Nat) : Except Error Regex := do
  let c : Cursor :=
    { overText, pattern, position := 0, rest := pattern, switches := [], names := [], widths := []
      lookbehind := none, conditions := [] }
  let (r, _) ← readPattern.run (← c.checked)
  return r

/-- Reads a pattern over texts. -/
def ofText (pattern : String) : Except Error Regex := compile true (Text.codes pattern)

/-- Reads a pattern over byte strings. -/
def ofBytes (pattern : Bytes) : Except Error Regex := compile false (pattern.map UInt8.toNat)

end Regex

end CompilerTest
