import ImportLint.Options.Parse
import ImportLint.Proofs.Text.Lines
import Mathlib.Data.List.Induction

/-!
# Settings on a command line

A command line of settings gives values to options and raises flags, in any order and number. It is read
without error, and every option by itself: an option that may be repeated has all of its values in their
order, one that may not has the last of them, and a flag is raised if it occurs (`parse_of_spellsAll`).
It does not matter whether a value is attached to its option or follows it as the next argument.

An attached value may be anything but the end mark, even something that looks like an option: what stands
before the first equals sign is already the full name of an option, and no name has an equals sign. A
value that follows must not start with a dash.
-/

namespace ImportLint

inductive Setting where
  | path (value : Text)
  | includeGlob (value : Text)
  | excludeGlob (value : Text)
  | extension (value : Text)
  | format (format : Format)
  | writeReport
  | noColor
  | verbose
  deriving DecidableEq, Repr

namespace Setting

/-! ## How settings are spelled -/

def opt : Setting → Opt
  | path _ => .path
  | includeGlob _ => .includeGlob
  | excludeGlob _ => .excludeGlob
  | extension _ => .extension
  | format _ => .format
  | writeReport => .writeReport
  | noColor => .noColor
  | verbose => .verbose

def name : Setting → Text
  | path _ => "--path".toList
  | includeGlob _ => "--include".toList
  | excludeGlob _ => "--exclude".toList
  | extension _ => "--extension".toList
  | format _ => "--format".toList
  | writeReport => "--write-report".toList
  | noColor => "--no-color".toList
  | verbose => "--verbose".toList

/-- The value that is given to the option, unless it is a flag. -/
def value? : Setting → Option Text
  | path value | includeGlob value | excludeGlob value | extension value => some value
  | format .text => some "text".toList
  | format .json => some "json".toList
  | writeReport | noColor | verbose => none

/-- The arguments that may stand for a setting. -/
inductive Spells : Setting → List Text → Prop where
  | attached {s : Setting} {value : Text} :
      s.value? = some value → value ≠ "--".toList → Spells s [s.name ++ '=' :: value]
  | apart {s : Setting} {value : Text} :
      s.value? = some value → value.head? ≠ some '-' → Spells s [s.name, value]
  | flag {s : Setting} : s.value? = none → Spells s [s.name]
  | short : Spells verbose ["-v".toList]

inductive SpellsAll : List Setting → List Text → Prop where
  | nil : SpellsAll [] []
  | cons {s : Setting} {arguments : List Text} {settings : List Setting} {line : List Text} :
      Spells s arguments → SpellsAll settings line → SpellsAll (s :: settings) (arguments ++ line)

/-! ## What settings ask for -/

def ofOption (opt : Opt) (settings : List Setting) : List Setting :=
  settings.filter fun s => s.opt = opt

def valuesOf (opt : Opt) (settings : List Setting) : List Text :=
  (ofOption opt settings).filterMap value?

def isSet (opt : Opt) (settings : List Setting) : Bool := !(ofOption opt settings).isEmpty

def options (settings : List Setting) : Options where
  path := some ((valuesOf .path settings).getLast?.getD ".".toList)
  included := (valuesOf .includeGlob settings).map some
  excluded := (valuesOf .excludeGlob settings).map some
  extensions := (valuesOf .extension settings).map some
  format := ((valuesOf .format settings).getLast?.bind Format.ofText?).getD .text
  writeReport := isSet .writeReport settings
  noColor := isSet .noColor settings
  verbose := isSet .verbose settings

/-- Nothing but the settings of each option by itself matters. -/
theorem options_congr {settings others : List Setting}
    (h : ∀ opt, ofOption opt settings = ofOption opt others) : options settings = options others := by
  simp only [options, valuesOf, isSet, h]

def apply (options : Options) : Setting → Options
  | path value => { options with path := some value }
  | includeGlob value => { options with included := options.included ++ [some value] }
  | excludeGlob value => { options with excluded := options.excluded ++ [some value] }
  | extension value => { options with extensions := options.extensions ++ [some value] }
  | format word => { options with format := word }
  | writeReport => { options with writeReport := true }
  | noColor => { options with noColor := true }
  | verbose => { options with verbose := true }

theorem ofOption_concat (opt : Opt) (settings : List Setting) (s : Setting) :
    ofOption opt (settings ++ [s]) =
      ofOption opt settings ++ if s.opt = opt then [s] else [] := by
  simp [ofOption, List.filter_append, List.filter_singleton]

theorem options_concat (settings : List Setting) (s : Setting) :
    options (settings ++ [s]) = apply (options settings) s := by
  cases s with
  | format word =>
      cases word with
      | text => simp [options, valuesOf, isSet, ofOption_concat, apply, opt, value?, Format.ofText?]
      | json => simp [options, valuesOf, isSet, ofOption_concat, apply, opt, value?, Format.ofText?]
  | _ => simp [options, valuesOf, isSet, ofOption_concat, apply, opt, value?]

/-- Settings that act one after the other give what they ask for together. -/
theorem foldl_apply (settings : List Setting) : settings.foldl apply {} = options settings := by
  -- The last value counts and later values go behind earlier ones, so the induction is from the end.
  induction settings using List.reverseRecOn with
  | nil => rfl
  | append_singleton settings s ih => rw [List.foldl_concat, ih, options_concat]

/-! ## Sorting the arguments of a setting -/

open Argument

variable {s : Setting} {text value : Text} {arguments line : List Text} {argument : Argument}

theorem ofTexts_cons (htext : text ≠ endMarkText) (h : ofText text = .ok argument)
    (line : List Text) : ofTexts (text :: line) = (ofTexts line).map (argument :: ·) := by
  simp only [ofTexts, if_neg htext, h]

/-- What has an equals sign in it is no option by itself. -/
theorem ofSpelling?_eq_none (h : '=' ∈ text) : Opt.ofSpelling? text = none := by
  have hspellings : ∀ entry ∈ Opt.spellings, '=' ∉ entry.1 := by decide
  rw [Opt.ofSpelling?, List.lookup_eq_none_iff]
  intro entry hentry
  rw [bne_iff_ne]
  rintro rfl
  exact hspellings entry hentry h

theorem splitValue_append (htext : '=' ∉ text) (value : Text) :
    splitValue (text ++ '=' :: value) = (text, some value) := by
  have hcut : Text.cut? ['='] (text ++ '=' :: value) = some (text, value) := by
    simpa using Text.cut?_mark_append htext [] value
  rw [splitValue, hcut]

theorem ofSpelling?_name (s : Setting) : Opt.ofSpelling? s.name = some s.opt := by
  cases s <;> rfl

theorem name_eq_dash_cons (s : Setting) : ∃ rest, s.name = '-' :: '-' :: rest ∧ '=' ∉ rest := by
  cases s <;> exact ⟨_, rfl, by decide⟩

theorem name_ne_endMark (s : Setting) : s.name ≠ endMarkText := by
  intro heq
  have hnone : Opt.ofSpelling? endMarkText = none := rfl
  rw [← heq, ofSpelling?_name] at hnone
  cases hnone

theorem ofText_name (s : Setting) : ofText s.name = .ok (.option s.opt s.name none) := by
  cases s <;> rfl

theorem ofText_attached (s : Setting) (value : Text) :
    ofText (s.name ++ '=' :: value) = .ok (.option s.opt s.name (some value)) := by
  -- The whole argument is no spelling of an option, but what stands before its first equals sign is one.
  rcases name_eq_dash_cons s with ⟨rest, hname, hrest⟩
  have hdash : ((s.name ++ '=' :: value).head? != some '-') = false := by rw [hname]; rfl
  have hnone : Opt.ofSpelling? (s.name ++ '=' :: value) = none := ofSpelling?_eq_none (by simp)
  have hlong : (s.name ++ '=' :: value).length ≠ 1 := by
    rw [hname]
    simp
  have hsplit : splitValue (s.name ++ '=' :: value) = (s.name, some value) :=
    splitValue_append (by simp [hname, hrest]) value
  simp only [ofText, hdash, hnone, hsplit, if_neg hlong, ofSpelling?_name, Option.isSome_some,
    Bool.false_eq_true, if_false]

theorem ofText_plain (h : text.head? ≠ some '-') : ofText text = .ok (.plain text) := by
  simp [ofText, h]

/-! ## Acting -/

theorem takesValue_opt (s : Setting) : s.opt.takesValue = s.value?.isSome := by
  cases s with
  | format word => cases word <;> rfl
  | _ => rfl

theorem setValue_opt (options : Options) (hvalue : s.value? = some value)
    (hne : value ≠ endMarkText) : options.setValue s.opt value = .ok (apply options s) := by
  have hof : Options.valueOf value = some value := by rw [Options.valueOf, if_neg hne]
  cases s with
  | format word =>
      cases word with
      | text =>
          cases hvalue
          rfl
      | json =>
          cases hvalue
          rfl
  | path v | includeGlob v | excludeGlob v | extension v =>
      cases hvalue
      simp [Options.setValue, opt, hof, apply]
  | writeReport | noColor | verbose => cases hvalue

theorem setFlags_opt (options : Options) (hvalue : s.value? = none) :
    options.setFlags [s.opt] = .ok (apply options s) := by
  cases s with
  | writeReport | noColor | verbose => rfl
  | format word => cases word <;> cases hvalue
  | path v | includeGlob v | excludeGlob v | extension v => cases hvalue

theorem act_attached (options : Options) (leftovers : List Text) (spelling : Text)
    (rest : List Argument) (hvalue : s.value? = some value) (hne : value ≠ endMarkText) :
    options.act leftovers (.option s.opt spelling (some value) :: rest) =
      (apply options s).act leftovers rest := by
  have htakes : s.opt.takesValue = true := by rw [takesValue_opt, hvalue]; rfl
  simp only [Options.act, htakes, if_true, setValue_opt options hvalue hne]

theorem act_apart (options : Options) (leftovers : List Text) (spelling : Text)
    (rest : List Argument) (hvalue : s.value? = some value) (hne : value ≠ endMarkText) :
    options.act leftovers (.option s.opt spelling none :: .plain value :: rest) =
      (apply options s).act leftovers rest := by
  have htakes : s.opt.takesValue = true := by rw [takesValue_opt, hvalue]; rfl
  simp only [Options.act, htakes, if_true, setValue_opt options hvalue hne]

theorem act_flag (options : Options) (leftovers : List Text) (spelling : Text)
    (rest : List Argument) (hvalue : s.value? = none) :
    options.act leftovers (.option s.opt spelling none :: rest) =
      (apply options s).act leftovers rest := by
  have htakes : s.opt.takesValue = false := by rw [takesValue_opt, hvalue]; rfl
  rw [Options.act.eq_def]
  simp [htakes, Options.flagsOf, setFlags_opt options hvalue]

/-! ## Whole command lines -/

/-- The arguments of a setting are sorted by themselves, and then act as the setting. -/
theorem Spells.exists_sorted (h : Spells s arguments) :
    ∃ sorted, (∀ line, ofTexts (arguments ++ line) = (ofTexts line).map (sorted ++ ·)) ∧
      ∀ (options : Options) leftovers rest,
        options.act leftovers (sorted ++ rest) = (apply options s).act leftovers rest := by
  cases h with
  | @attached _ value hvalue hne =>
      refine ⟨[.option s.opt s.name (some value)], fun line => ?_, ?_⟩
      · refine ofTexts_cons ?_ (ofText_attached s value) line
        intro heq
        have hequals : '=' ∈ endMarkText := heq ▸ by simp
        exact absurd hequals (by decide)
      · exact fun options leftovers rest => act_attached options leftovers s.name rest hvalue hne
  | @apart _ value hvalue hdash =>
      have hne : value ≠ endMarkText := by
        rintro rfl
        exact hdash rfl
      -- The value is sorted as a plain argument, and the option takes it when it acts.
      refine ⟨[.option s.opt s.name none, .plain value], fun line => ?_, ?_⟩
      · rw [List.cons_append, List.singleton_append, ofTexts_cons (name_ne_endMark s) (ofText_name s),
          ofTexts_cons hne (ofText_plain hdash)]
        cases ofTexts line <;> rfl
      · exact fun options leftovers rest => act_apart options leftovers s.name rest hvalue hne
  | flag hvalue =>
      refine ⟨[.option s.opt s.name none], fun line => ?_, ?_⟩
      · exact ofTexts_cons (name_ne_endMark s) (ofText_name s) line
      · exact fun options leftovers rest => act_flag options leftovers s.name rest hvalue
  | short =>
      refine ⟨[.option .verbose "-v".toList none], fun line => ?_, ?_⟩
      · exact ofTexts_cons (by decide) rfl line
      · exact fun options leftovers rest => act_flag (s := .verbose) options leftovers _ rest rfl

/-- The arguments of settings are all sorted, and then act as the settings in a row. -/
theorem SpellsAll.exists_sorted {settings : List Setting} (h : SpellsAll settings line) :
    ∃ sorted, ofTexts line = .ok sorted ∧
      ∀ options : Options, options.act [] sorted = .ok (.run (settings.foldl apply options)) := by
  induction h with
  | nil => exact ⟨[], rfl, fun options => rfl⟩
  | cons hfirst _ ih =>
      rcases hfirst.exists_sorted with ⟨first, hsorted, hacts⟩
      rcases ih with ⟨rest, hrest, hrun⟩
      refine ⟨first ++ rest, by rw [hsorted, hrest]; rfl, fun options => ?_⟩
      rw [hacts, hrun, List.foldl_cons]

theorem parse_of_spellsAll {settings : List Setting} (h : SpellsAll settings line) :
    Options.parse line = .ok (.run (options settings)) := by
  rcases h.exists_sorted with ⟨sorted, hsorted, hrun⟩
  simp only [Options.parse, hsorted, hrun, foldl_apply]

theorem SpellsAll.append {settings others : List Setting} {line' : List Text}
    (h : SpellsAll settings line) (h' : SpellsAll others line') :
    SpellsAll (settings ++ others) (line ++ line') := by
  induction h with
  | nil => exact h'
  | cons hfirst _ ih =>
      rw [List.cons_append, List.append_assoc]
      exact .cons hfirst ih

/-- A command line of settings is read without error, into the values of every option by itself and in
their order. So two of them are read alike if they have the same settings of each option, whatever is
between these, and it does not matter whether a value is attached to its option or follows it. -/
theorem parse_option_by_option :
    (∀ settings line, SpellsAll settings line →
      Options.parse line = .ok (.run (options settings))) ∧
    (∀ settings others line line', SpellsAll settings line → SpellsAll others line' →
      (∀ opt, ofOption opt settings = ofOption opt others) →
        Options.parse line = Options.parse line') ∧
    ∀ settings others before after (s : Setting) value, SpellsAll settings before →
      SpellsAll others after → s.value? = some value → value.head? ≠ some '-' →
        Options.parse (before ++ s.name :: value :: after) =
          Options.parse (before ++ (s.name ++ '=' :: value) :: after) := by
  refine ⟨fun _ _ h => parse_of_spellsAll h, ?_, ?_⟩
  · intro settings others line line' h h' hsame
    rw [parse_of_spellsAll h, parse_of_spellsAll h', options_congr hsame]
  · -- Both lines spell the same settings, which is all that counts.
    intro settings others before after s value hbefore hafter hvalue hdash
    have hne : value ≠ "--".toList := by
      rintro rfl
      exact hdash rfl
    have hattached := hbefore.append (.cons (.attached hvalue hne) hafter)
    have hapart := hbefore.append (.cons (.apart hvalue hdash) hafter)
    exact (parse_of_spellsAll hapart).trans (parse_of_spellsAll hattached).symm

/-- Values that look like options, hold equals signs or are empty, between flags in either spelling. -/
theorem parse_option_by_option_mixed :
    let line := ["--include=--path=x".toList, "-v".toList, "--format".toList, "json".toList,
      "--path=".toList, "--include".toList, "a b".toList, "--no-color".toList]
    SpellsAll [.includeGlob "--path=x".toList, .verbose, .format .json, .path [],
        .includeGlob "a b".toList, .noColor] line ∧
      Options.parse line = .ok (.run
        { path := some []
          included := [some "--path=x".toList, some "a b".toList]
          format := .json
          noColor := true
          verbose := true }) := by
  intro line
  have hfirst : Spells (.includeGlob "--path=x".toList) ["--include=--path=x".toList] :=
    .attached rfl (by decide)
  have hempty : Spells (.path []) ["--path=".toList] := .attached rfl (by decide)
  have hline : SpellsAll [.includeGlob "--path=x".toList, .verbose, .format .json, .path [],
      .includeGlob "a b".toList, .noColor] line :=
    .cons hfirst <| .cons .short <| .cons (.apart rfl (by decide)) <| .cons hempty <|
      .cons (.apart rfl (by decide)) <| .cons (.flag rfl) .nil
  exact ⟨hline, (parse_option_by_option.1 _ line hline).trans (by decide)⟩

end Setting

end ImportLint
