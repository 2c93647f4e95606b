import AppScaffold.Log.Entry
import AppScaffold.Text.Blank

/-! Filters: what of a log is shown. A filter is a text of rules between commas, such as
`warn,appgen_codegen=debug` or `[generate]=info`. A rule gives a threshold to everything, to the
origins whose names begin in one way, or to what happens inside some spans. Of the rules for an
origin the most specific one counts. -/

namespace AppScaffold.Log

/-- The least grave level that is shown; none shows nothing. -/
abbrev Threshold := Option Level

namespace Threshold

def shows (t : Threshold) (level : Level) : Bool := t.any (level.rank ≤ ·.rank)

def union (s t : Threshold) : Threshold := if t.all s.shows then s else t

def names : List (String × Threshold) :=
  [("off", none), ("error", some .error), ("warn", some .warn), ("info", some .info),
    ("debug", some .debug), ("trace", some .trace)]

def number? (s : String) : Option Nat :=
  let digits := match s.toList with
    | '+' :: cs => cs
    | cs => cs
  if digits.isEmpty || !digits.all Char.isDigit then none
  else some (digits.foldl (fun n d => n * 10 + (d.toNat - '0'.toNat)) 0)

def ofText? (s : String) : Option Threshold :=
  match number? s with
  | some n => names[n]?.map Prod.snd
  | none => names.lookup (String.ofList (s.toList.map Char.toLower))

end Threshold

structure FieldPattern where
  name : String
  value : Option String := none
  deriving DecidableEq

def FieldPattern.ofText (s : String) : FieldPattern :=
  let pieces := (Text.splitWhere (· == '=') s.toList).map String.ofList
  ⟨pieces.headD "", pieces[1]?⟩

def FieldPattern.hasValue (p : FieldPattern) : Bool := p.value.isSome

def FieldPattern.isNameIn (p : FieldPattern) (fields : List Field) : Bool :=
  fields.any (·.name == p.name)

def FieldPattern.isValueIn (p : FieldPattern) (fields : List Field) : Bool :=
  p.value.all fun v => fields.contains ⟨p.name, v⟩

structure Rule where
  origins : String := ""
  span : Option String := none
  field : Option FieldPattern := none
  threshold : Threshold := some .trace

namespace Rule

def isSame (r s : Rule) : Bool := r.origins == s.origins && r.span == s.span && r.field == s.field

def isFor (r : Rule) (o : Origin) : Bool := r.origins.toList.isPrefixOf o.name.toList

/-- A plain rule holds wherever something happens. -/
def isPlain (r : Rule) : Bool := r.span.isNone && !r.field.any FieldPattern.hasValue

/-- A scoped rule holds for what happens inside the spans that it fits. -/
def isScoped (r : Rule) : Bool := r.span.isSome || r.field.isSome

def fits (r : Rule) (s : Span) : Bool :=
  r.isScoped && r.isFor s.origin && r.span.all (· == s.name) && r.field.all (·.isNameIn s.fields)

def covers (r : Rule) (e : Event) : Bool :=
  r.isFor e.origin && r.field.all fun p => p.name == "message" || p.isNameIn e.fields

/-- Rules are more specific with a longer name of origins, and then with a field. -/
def isUnder (r s : Rule) : Bool :=
  let key (r : Rule) := (r.origins.utf8ByteSize, r.field.map (·.name))
  ((compare (key r).1 (key s).1).then (compare (key r).2 (key s).2)).isLE

def top : List Rule → Option Rule
  | [] => none
  | r :: rest =>
    match top rest with
    | some s => if r.isUnder s then some s else some r
    | none => some r

def isStart (c : Char) : Bool := c.isAlphanum || "-:_".toList.contains c || 0x80 ≤ c.toNat

def thresholdBehind? (s : String) : Option Threshold :=
  if s.isEmpty then some (some .trace) else Threshold.ofText? s

/-- A rule: origins, a span with a field in brackets, and a threshold behind an equals sign, any of
which may be missing; or a threshold alone. The parts are found in the text without the blanks
around it, and are cut out of the whole text at the places where they were found. -/
def ofText? (text : String) : Option Rule :=
  let form := Text.trimChars text.toList
  let find (start : Nat) (p : Char → Bool) := start + ((form.drop start).takeWhile (!p ·)).length
  let cut (start stop : Nat) := String.ofList ((text.toList.take stop).drop start)
  let behind (start : Nat) := String.ofList (text.toList.drop start)
  let close (r : Rule) (n : Nat) : Option Rule :=
    match form.drop n with
    | [] => some r
    | '=' :: _ => (thresholdBehind? (behind (n + 1))).map fun threshold => { r with threshold }
    | _ => none
  let bracket (origins : String) (start : Nat) : Option Rule :=
    let stop := find start fun c => c == ']' || c == '\x7b'
    match form.drop stop with
    | ']' :: _ => close { origins, span := some (cut start stop) } (stop + 1)
    | '\x7b' :: _ =>
      let last := find (stop + 1) (· == '\x7d')
      match form.drop last with
      | '\x7d' :: ']' :: _ =>
        if last = stop + 1 then none
        else
          let span := if stop = start then none else some (cut start stop)
          close { origins, span, field := some (.ofText (cut (stop + 1) last)) } (last + 2)
      | _ => none
    | _ => none
  match form with
  | [] => none
  | '[' :: _ => bracket "" 1
  | c :: _ =>
    if isStart c then
      let stop := find 0 fun c => c == '=' || c == '['
      match form.drop stop with
      | [] =>
        match Threshold.ofText? text with
        | some threshold => some { threshold }
        | none => some { origins := text }
      | '[' :: _ => bracket (cut 0 stop) (stop + 1)
      | _ => close { origins := cut 0 stop } stop
    else none

end Rule

structure Filter where
  rules : List Rule
  /-- No span below this threshold is opened. -/
  limit : Threshold

namespace Filter

/-- The threshold that a rule may come to for a span. A value is not known before. -/
def reach (r : Rule) : Threshold :=
  if r.field.any FieldPattern.hasValue then some .trace else r.threshold

def add (f : Filter) (r : Rule) : Filter :=
  ⟨f.rules.filter (!r.isSame ·) ++ [r], f.limit.union (reach r)⟩

def ofRules (rules : List Rule) : Filter := rules.foldl add ⟨[], none⟩

def ofText? (text : String) : Option Filter := do
  let pieces := (Text.splitWhere (· == ',') text.toList).filter (!·.isEmpty)
  let rules ← pieces.mapM fun piece => Rule.ofText? (String.ofList piece)
  pure (ofRules (if rules.isEmpty then [{ threshold := some .error }] else rules))

/-- The filter of a setting. If it is missing or no filter, warnings are shown. -/
def ofSetting (setting : Option String) : Filter :=
  (setting.bind ofText?).getD (ofRules [{ threshold := some .warn }])

def plain (f : Filter) (p : Rule → Bool) : Threshold :=
  (Rule.top (f.rules.filter fun r => r.isPlain && p r)).bind Rule.threshold

/-- What the scoped rules show inside a span. -/
def inside (f : Filter) (s : Span) : Threshold :=
  let rules := f.rules.filter fun r => r.fits s && r.field.all (·.isValueIn s.fields)
  rules.foldl (fun t r => t.union r.threshold) none

end Filter

structure Scope where
  span : Option Span
  inside : Threshold

namespace Filter

def showsEvent (f : Filter) (scopes : List Scope) (e : Event) : Bool :=
  scopes.any (·.inside.shows e.level) || (f.plain (·.covers e)).shows e.level

/-- Whether a span inside the scopes is shown. One that a scoped rule fits is shown whatever the
rule's threshold is, if the limit of the filter allows it. -/
def showsSpan (f : Filter) (scopes : List Scope) (s : Span) : Bool :=
  f.limit.shows s.level &&
    (f.rules.any (·.fits s) || scopes.any (·.inside.shows s.level) ||
      (f.plain (·.isFor s.origin)).shows s.level)

def scope (f : Filter) (scopes : List Scope) (s : Span) : Scope :=
  if f.showsSpan scopes s then ⟨some s, f.inside s⟩ else ⟨none, none⟩

end Filter

end AppScaffold.Log
