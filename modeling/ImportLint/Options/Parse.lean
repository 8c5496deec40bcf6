import ImportLint.Options.Basic
import ImportLint.Text.Decimal

/-!
# Reading a command line

Every argument is first sorted by its looks: an option, perhaps abbreviated and perhaps with a value
behind an equals sign, or a plain argument. Negative numbers and arguments with a blank are plain,
and so is everything after `--`. Then the options act from left to right; the first help or version
request or misuse ends the reading. Arguments that no option takes are a misuse of their own once
all options have acted.
-/

namespace ImportLint

/-! ## Sorting arguments -/

inductive Argument where
  | plain (text : Text)
  | endMark
  /-- A known option as spelled, with the value that is attached to it. -/
  | option (opt : Opt) (spelling : Text) (value : Option Text)
  /-- Something that looks like an option and is none. -/
  | unknown (text : Text)
  deriving DecidableEq, Repr

namespace Argument

def endMarkText : Text := "--".toList

/-- The argument as it was given, if no option takes it. -/
def leftover : Argument → Text
  | plain text => text
  | endMark => endMarkText
  | option _ spelling _ => spelling
  | unknown text => text

def splitValue (text : Text) : Text × Option Text :=
  match Text.cut? ['='] text with
  | some (name, value) => (name, some value)
  | none => (text, none)

/-- Whether a text is all digits, or ends in a point and digits. -/
def isDigits (text : Text) : Bool :=
  match text.dropWhile isDecimal with
  | [] => !text.isEmpty
  | '.' :: fraction => !fraction.isEmpty && fraction.all isDecimal
  | _ => false

def isNegativeNumber : Text → Bool
  | '-' :: text =>
    -- A line feed at the end does not matter.
    isDigits text || (text.getLast? == some '\n' && isDigits text.dropLast)
  | _ => false

/-- The options that an argument may abbreviate, with the value attached to it. A long option is
abbreviated by any part from its start; a short one has its value right behind it. -/
def abbreviated (text : Text) : List (Opt × Text × Option Text) :=
  match text with
  | '-' :: '-' :: _ =>
    let (name, value) := splitValue text
    (Opt.spellings.filter fun entry => name.isPrefixOf entry.1).map fun (spelling, opt) =>
      (opt, spelling, value)
  | _ =>
    (Opt.spellings.filter fun entry => entry.1 == text.take 2).map fun (spelling, opt) =>
      (opt, spelling, some (text.drop 2))

def ofText (text : Text) : Except Misuse Argument :=
  if text.head? != some '-' then .ok (plain text)
  else
    match Opt.ofSpelling? text with
    | some opt => .ok (option opt text none)
    | none =>
      if text.length = 1 then .ok (plain text)
      else
        let (name, value) := splitValue text
        match value.isSome, Opt.ofSpelling? name with
        | true, some opt => .ok (option opt name value)
        | _, _ =>
          match abbreviated text with
          | [(opt, spelling, value)] => .ok (option opt spelling value)
          | [] =>
            if isNegativeNumber text || text.contains ' ' then .ok (plain text)
            else .ok (unknown text)
          | candidates => .error (.ambiguous text (candidates.map (·.2.1)))

def ofTexts : List Text → Except Misuse (List Argument)
  | [] => .ok []
  | text :: rest =>
    if text = endMarkText then .ok (endMark :: rest.map plain)
    else
      match ofText text with
      | .error misuse => .error misuse
      | .ok argument => (ofTexts rest).map (argument :: ·)

end Argument

/-! ## Acting -/

inductive Request where
  | run (options : Options)
  | help
  | version
  deriving DecidableEq, Repr

namespace Options

/-- A value as it was given. The end mark is no value, even where it is attached to an option. -/
def valueOf (text : Text) : Option Text := if text = Argument.endMarkText then none else some text

/-- The format after one was asked for; without a value it is plain text. -/
def formatOf : (value : Option Text) → Except Misuse Format
  | none => .ok .text
  | some word =>
    match Format.ofText? word with
    | some format => .ok format
    | none => .error (.unknownFormat word)

def setValue (options : Options) (opt : Opt) (text : Text) : Except Misuse Options :=
  let value := valueOf text
  match opt with
  | .path => .ok { options with path := value }
  | .includeGlob => .ok { options with included := options.included ++ [value] }
  | .excludeGlob => .ok { options with excluded := options.excluded ++ [value] }
  | .extension => .ok { options with extensions := options.extensions ++ [value] }
  | .format => (formatOf value).map fun format => { options with format := format }
  | _ => .ok options

/-- What is asked for after options without values have acted in order: the options so far, or a
request that ends the reading. -/
def setFlags (options : Options) : List Opt → Except Request Options
  | [] => .ok options
  | .help :: _ => .error .help
  | .version :: _ => .error .version
  | .writeReport :: rest => setFlags { options with writeReport := true } rest
  | .noColor :: rest => setFlags { options with noColor := true } rest
  | .verbose :: rest => setFlags { options with verbose := true } rest
  | _ :: rest => setFlags options rest

/-- The options without values in a bundle of short ones, of which `opt` is the first and `bundle`
holds the letters of the others. -/
def bundled (opt : Opt) : (bundle : Text) → Except Misuse (List Opt)
  | [] => .ok [opt]
  | c :: rest =>
    match Opt.ofSpelling? ['-', c] with
    | some next => (bundled next rest).map (opt :: ·)
    | none => .error (.valueIgnored opt (c :: rest))

/-- The options without values that an argument stands for. -/
def flagsOf (opt : Opt) (spelling : Text) : (value : Option Text) → Except Misuse (List Opt)
  | none => .ok [opt]
  | some value =>
    -- Only a short option can have others attached to it.
    if value.isEmpty || Argument.endMarkText.isPrefixOf spelling then
      .error (.valueIgnored opt value)
    else bundled opt value

/-- Lets arguments act from left to right. Plain and unknown arguments are left over. -/
def act (options : Options) (leftovers : List Text) : List Argument → Except Misuse Request
  | [] =>
    if leftovers.isEmpty then .ok (.run options) else .error (.unrecognized leftovers)
  | .option opt spelling value :: rest =>
    if opt.takesValue then
      match value, rest with
      -- An attached value may look like an option; one that follows may not.
      | some value, rest =>
        match options.setValue opt value with
        | .error misuse => .error misuse
        | .ok options => act options leftovers rest
      | none, .plain value :: rest =>
        match options.setValue opt value with
        | .error misuse => .error misuse
        | .ok options => act options leftovers rest
      | none, _ => .error (.valueMissing opt)
    else
      match flagsOf opt spelling value with
      | .error misuse => .error misuse
      | .ok flags =>
        match options.setFlags flags with
        | .error request => .ok request
        | .ok options => act options leftovers rest
  | argument :: rest => act options (leftovers ++ [argument.leftover]) rest

def parse (arguments : List Text) : Except Misuse Request :=
  match Argument.ofTexts arguments with
  | .error misuse => .error misuse
  | .ok arguments => act {} [] arguments

end Options

end ImportLint
