import Highlight.Proofs.Data.Value
import Highlight.Proofs.Result
import Highlight.Proofs.Style.Color
import Highlight.Style.ThemeData

/-!
# Themes read from data

An entry describes a rule, or has a first thing wrong with it (`Describes`, `Lacks`).  An entry is read as the
rule that it describes, and fails with what it lacks.

* `rulesOfData_eq_ok`, `rulesOfData_eq_error`: so are the entries of a list, in order and up to the first that
  describes no rule; by induction on the list.
* `ofData_reads`: so is a theme, whose faults name the first such entry.  The name in the data is not
  checked; if it has no text, reading crashes after the rules have been read.
* `ofData_toData`: what is written for a theme is read back.
-/

namespace Highlight.Theme

/-! ## Entries -/

/-- The value of a flag, which is not set where it is absent. -/
def Flag (data : Table Value) (key : String) (b : Bool) : Prop :=
  Table.get? key data = some (.bool b) ∨ Table.get? key data = none ∧ b = false

/-- An entry that describes a rule: a table with a tag that is not empty, a color, and flags. -/
inductive Describes : Value → ThemeRule → Prop
  | entry {data : Table Value} {rule : ThemeRule} {text : String}
      (htag : Table.get? "type" data = some (.string rule.tag)) (hne : rule.tag ≠ "")
      (htext : Table.get? "color" data = some (.string text))
      (hcolor : Color.ofHex text.toList = .ok rule.color)
      (hitalic : Flag data "italic" rule.italic) (hbold : Flag data "bold" rule.bold) :
      Describes (.table data) rule

/-- The first thing wrong with an entry of a certain number. -/
inductive Lacks (index : Nat) : Value → ThemeFault → Prop
  | table {v : Value} (htable : ∀ data, v ≠ .table data) : Lacks index v (.ruleNotTable index)
  | tag {data : Table Value}
      (htag : ∀ tag, Table.get? "type" data = some (.string tag) → tag = "") :
      Lacks index (.table data) (.missingTag index)
  | color {data : Table Value} {tag : String}
      (htag : Table.get? "type" data = some (.string tag)) (hne : tag ≠ "")
      (htext : ∀ text, Table.get? "color" data ≠ some (.string text)) :
      Lacks index (.table data) (.missingColor index tag)
  | hex {data : Table Value} {tag text : String} {e : ColorError}
      (htag : Table.get? "type" data = some (.string tag)) (hne : tag ≠ "")
      (htext : Table.get? "color" data = some (.string text))
      (hcolor : Color.ofHex text.toList = .error e) :
      Lacks index (.table data) (.badColor index tag e)
  | flags {data : Table Value} {tag text : String} {c : Color}
      (htag : Table.get? "type" data = some (.string tag)) (hne : tag ≠ "")
      (htext : Table.get? "color" data = some (.string text))
      (hcolor : Color.ofHex text.toList = .ok c)
      (hflags : (∀ b, ¬ Flag data "italic" b) ∨ ∀ b, ¬ Flag data "bold" b) :
      Lacks index (.table data) (.flagsNotBoolean index tag)

theorem flag?_eq_some {data : Table Value} {key : String} {b : Bool} :
    flag? data key = some b ↔ Flag data key b := by
  unfold flag? Flag
  cases Table.get? key data with
  | none => simp [eq_comm]
  | some v => cases v <;> simp

/-- What an entry describes it is read as. -/
theorem Describes.ruleOfData_eq {v : Value} {rule : ThemeRule} (h : Describes v rule) (index : Nat) :
    ruleOfData index v = .ok rule := by
  cases h with
  | entry htag hne htext hcolor hitalic hbold =>
    simp only [ruleOfData, htag, if_neg hne, htext, hcolor, flag?_eq_some.mpr hitalic,
      flag?_eq_some.mpr hbold]

/-- What an entry lacks it fails with. -/
theorem Lacks.ruleOfData_eq {index : Nat} {v : Value} {f : ThemeFault} (h : Lacks index v f) :
    ruleOfData index v = .error f := by
  cases h with
  | table htable =>
    cases v with
    | table data => exact absurd rfl (htable data)
    | null | bool | integer | decimal | string | moment | array => rfl
  | @tag data htag =>
    simp only [ruleOfData]
    split
    · next tag htype => rw [if_pos (htag tag htype)]
    · rfl
  | color htag hne htext => simp only [ruleOfData, htag, if_neg hne]
  | hex htag hne htext hcolor => simp only [ruleOfData, htag, if_neg hne, htext, hcolor]
  | @flags data tag text c htag hne htext hcolor hflags =>
    simp only [ruleOfData, htag, if_neg hne, htext, hcolor]
    split
    · next hitalic hbold =>
      rcases hflags with hnone | hnone
      · exact absurd (flag?_eq_some.mp hitalic) (hnone _)
      · exact absurd (flag?_eq_some.mp hbold) (hnone _)
    · rfl

/-- **An entry describes a rule or lacks something.** -/
theorem describes_or_lacks (index : Nat) (v : Value) :
    (∃ rule, Describes v rule) ∨ ∃ f, Lacks index v f := by
  by_cases htable : ∃ data, v = .table data
  case neg => exact Or.inr ⟨_, .table fun data hv => htable ⟨data, hv⟩⟩
  obtain ⟨data, rfl⟩ := htable
  by_cases htag : ∃ tag, Table.get? "type" data = some (.string tag) ∧ tag ≠ ""
  case neg => exact Or.inr ⟨_, .tag fun tag htype => by_contra fun hne => htag ⟨tag, htype, hne⟩⟩
  obtain ⟨tag, htag, hne⟩ := htag
  by_cases htext : ∃ text, Table.get? "color" data = some (.string text)
  case neg => exact Or.inr ⟨_, .color htag hne fun text h => htext ⟨text, h⟩⟩
  obtain ⟨text, htext⟩ := htext
  cases hcolor : Color.ofHex text.toList with
  | error e => exact Or.inr ⟨_, .hex htag hne htext hcolor⟩
  | ok color =>
    by_cases hitalic : ∃ b, Flag data "italic" b
    case neg => exact Or.inr ⟨_, .flags htag hne htext hcolor (Or.inl fun b h => hitalic ⟨b, h⟩)⟩
    by_cases hbold : ∃ b, Flag data "bold" b
    case neg => exact Or.inr ⟨_, .flags htag hne htext hcolor (Or.inr fun b h => hbold ⟨b, h⟩)⟩
    obtain ⟨italic, hitalic⟩ := hitalic
    obtain ⟨bold, hbold⟩ := hbold
    exact Or.inl ⟨{ tag, color, italic, bold }, .entry htag hne htext hcolor hitalic hbold⟩

theorem ruleOfData_eq_ok {index : Nat} {v : Value} {rule : ThemeRule} :
    ruleOfData index v = .ok rule ↔ Describes v rule :=
  Except.eq_ok_iff_of_cases (fun _ h => h.ruleOfData_eq index) (fun _ h => h.ruleOfData_eq)
    (describes_or_lacks index v)

theorem ruleOfData_eq_error {index : Nat} {v : Value} {f : ThemeFault} :
    ruleOfData index v = .error f ↔ Lacks index v f :=
  Except.eq_error_iff_of_cases (fun _ h => h.ruleOfData_eq index) (fun _ h => h.ruleOfData_eq)
    (describes_or_lacks index v)

/-- An entry that describes a rule lacks nothing. -/
theorem Lacks.not_describes {index : Nat} {v : Value} {f : ThemeFault} (h : Lacks index v f)
    (rule : ThemeRule) : ¬ Describes v rule := fun hrule => by
  cases h.ruleOfData_eq.symm.trans (hrule.ruleOfData_eq index)

/-! ## Lists of entries -/

theorem rulesOfData_cons (index : Nat) (v : Value) (vs : List Value) :
    rulesOfData index (v :: vs) = (ruleOfData index v).bind fun rule =>
      (rulesOfData (index + 1) vs).bind fun rules => .ok (rule :: rules) := rfl

/-- **Entries are read as the rules that they describe**, one by one and in order. -/
theorem rulesOfData_eq_ok {index : Nat} {vs : List Value} {rules : List ThemeRule} :
    rulesOfData index vs = .ok rules ↔ List.Forall₂ Describes vs rules := by
  induction vs generalizing index rules with
  | nil => simp [rulesOfData, eq_comm]
  | cons v vs ih =>
    rw [rulesOfData_cons, Except.bind_eq_ok]
    simp only [Except.bind_eq_ok, ruleOfData_eq_ok, ih, Except.ok.injEq, List.forall₂_cons_left_iff]
    constructor
    · rintro ⟨rule, hrule, rest, hrest, rfl⟩
      exact ⟨rule, rest, hrule, hrest, rfl⟩
    · rintro ⟨rule, rest, hrule, hrest, rfl⟩
      exact ⟨rule, hrule, rest, hrest, rfl⟩

/-- **Entries fail with what the first one lacks that describes no rule.** -/
theorem rulesOfData_eq_error {index : Nat} {vs : List Value} {f : ThemeFault} :
    rulesOfData index vs = .error f ↔ ∃ before v after, vs = before ++ v :: after ∧
      (∀ u ∈ before, ∃ rule, Describes u rule) ∧ Lacks (index + before.length) v f := by
  induction vs generalizing index with
  | nil => simp [rulesOfData]
  | cons v vs ih =>
    rw [rulesOfData_cons, Except.bind_eq_error]
    constructor
    · rintro (h | ⟨rule, hrule, h⟩)
      · exact ⟨[], v, vs, rfl, by simp, ruleOfData_eq_error.mp h⟩
      · rcases Except.bind_eq_error.mp h with h | ⟨rules, -, h⟩
        · obtain ⟨before, u, after, rfl, hbefore, hu⟩ := ih.mp h
          refine ⟨v :: before, u, after, rfl,
            List.forall_mem_cons.mpr ⟨⟨rule, ruleOfData_eq_ok.mp hrule⟩, hbefore⟩, ?_⟩
          rwa [List.length_cons, Nat.add_comm before.length, ← Nat.add_assoc]
        · cases h
    · rintro ⟨before, u, after, hvs, hbefore, hu⟩
      cases before with
      | nil =>
        obtain ⟨rfl, -⟩ := List.cons.inj hvs
        exact Or.inl hu.ruleOfData_eq
      | cons w before =>
        obtain ⟨rfl, rfl⟩ := List.cons.inj hvs
        obtain ⟨⟨rule, hrule⟩, hbefore⟩ := List.forall_mem_cons.mp hbefore
        rw [List.length_cons, Nat.add_comm before.length, ← Nat.add_assoc] at hu
        exact Or.inr ⟨rule, hrule.ruleOfData_eq index,
          Except.bind_eq_error.mpr (Or.inl (ih.mpr ⟨before, u, after, rfl, hbefore, hu⟩))⟩

/-! ## Themes -/

/-- The rules that data is made of: none, if it says nothing of them. -/
inductive HasRules (data : Table Value) : List ThemeRule → Prop
  | absent (hrules : Table.get? "rule" data = none) : HasRules data []
  | entries {items : List Value} {rules : List ThemeRule}
      (hrules : Table.get? "rule" data = some (.array items))
      (hitems : List.Forall₂ Describes items rules) : HasRules data rules

/-- What is wrong with data: what it says of the rules is no list, or the first entry that describes no rule
lacks something. -/
inductive HasFault (data : Table Value) : ThemeFault → Prop
  | list {v : Value} (hrules : Table.get? "rule" data = some v) (hlist : ∀ items, v ≠ .array items) :
      HasFault data .rulesNotArray
  | entry {before after : List Value} {v : Value} {f : ThemeFault}
      (hrules : Table.get? "rule" data = some (.array (before ++ v :: after)))
      (hbefore : ∀ u ∈ before, ∃ rule, Describes u rule) (hv : Lacks (before.length + 1) v f) :
      HasFault data f

/-- What the data says of the rules. -/
def readRules (data : Table Value) : Except ThemeFault (List ThemeRule) :=
  match Table.get? "rule" data with
  | none => .ok []
  | some (.array items) => rulesOfData 1 items
  | some _ => .error .rulesNotArray

theorem readRules_eq_ok {data : Table Value} {rules : List ThemeRule} :
    readRules data = .ok rules ↔ HasRules data rules := by
  constructor
  · intro h
    unfold readRules at h
    split at h
    · next hrules =>
      obtain rfl := Except.ok.inj h
      exact .absent hrules
    · next hrules => exact .entries hrules (rulesOfData_eq_ok.mp h)
    · cases h
  · rintro (hrules | ⟨hrules, hitems⟩)
    · simp only [readRules, hrules]
    · simp only [readRules, hrules]
      exact rulesOfData_eq_ok.mpr hitems

theorem readRules_eq_error {data : Table Value} {f : ThemeFault} :
    readRules data = .error f ↔ HasFault data f := by
  constructor
  · intro h
    unfold readRules at h
    split at h
    · cases h
    · next hrules =>
      obtain ⟨before, v, after, rfl, hbefore, hv⟩ := rulesOfData_eq_error.mp h
      exact .entry hrules hbefore (Nat.add_comm 1 _ ▸ hv)
    · next v hlist hrules =>
      obtain rfl := Except.error.inj h
      exact .list hrules hlist
  · rintro (⟨hrules, hlist⟩ | ⟨hrules, hbefore, hv⟩)
    · simp only [readRules, hrules]
    · simp only [readRules, hrules]
      exact rulesOfData_eq_error.mpr ⟨_, _, _, rfl, hbefore, Nat.add_comm 1 _ ▸ hv⟩

/-- The name of a theme: that in the data, in whatever kind of value, or else the one given. -/
inductive HasName (room : Nat) (data : Table Value) (name : String) : String → Prop
  | absent (hname : Table.get? "name" data = none) : HasName room data name name
  | given {v : Value} {text : String} (hname : Table.get? "name" data = some v)
      (htext : v.text room = .ok text) : HasName room data name text

/-- The name in the data has no text. -/
def Unnamable (room : Nat) (data : Table Value) (c : Crash) : Prop :=
  ∃ v, Table.get? "name" data = some v ∧ v.text room = .error c

theorem nameOfData_eq_ok {room : Nat} {data : Table Value} {name text : String} :
    nameOfData room data name = .ok text ↔ HasName room data name text := by
  unfold nameOfData
  constructor
  · intro h
    split at h
    · next hname =>
      obtain rfl := Except.ok.inj h
      exact .absent hname
    · next v hname => exact .given hname h
  · rintro (hname | ⟨hname, htext⟩)
    · rw [hname]
    · rw [hname]
      exact htext

theorem nameOfData_eq_error {room : Nat} {data : Table Value} {name : String} {c : Crash} :
    nameOfData room data name = .error c ↔ Unnamable room data c := by
  unfold nameOfData Unnamable
  cases hname : Table.get? "name" data with
  | none => simp
  | some v => simp

/-- Which names have no text. -/
theorem exists_unnamable_iff {room : Nat} {data : Table Value} : (∃ c, Unnamable room data c) ↔
    ∃ v, Table.get? "name" data = some v ∧ ¬ v.HasText room := by
  simp only [Unnamable, ← Value.exists_text_error_iff]
  exact ⟨fun ⟨c, v, hname, hv⟩ => ⟨v, hname, c, hv⟩, fun ⟨v, hname, c, hv⟩ => ⟨c, v, hname, hv⟩⟩

section OfData

variable {room : Nat} {data : Table Value} {name : String} {path : Option Path}

theorem ofData_eq : ofData room data name path = match readRules data with
    | .error fault => .error (.theme ⟨fault, path⟩)
    | .ok rules =>
      match nameOfData room data name with
      | .error c => .error (.crash c)
      | .ok name => .ok ⟨name, rules⟩ := rfl

theorem ofData_eq_ok {theme : Theme} : ofData room data name path = .ok theme ↔
    HasRules data theme.rules ∧ HasName room data name theme.name := by
  rw [ofData_eq, ← readRules_eq_ok, ← nameOfData_eq_ok]
  cases readRules data with
  | error f => simp
  | ok rules =>
    obtain ⟨themeName, themeRules⟩ := theme
    cases nameOfData room data name with
    | error c => simp
    | ok text => simp [and_comm]

theorem ofData_eq_theme {e : ThemeError} :
    ofData room data name path = .error (.theme e) ↔ HasFault data e.fault ∧ e.path = path := by
  rw [ofData_eq, ← readRules_eq_error]
  cases readRules data with
  | error f =>
    obtain ⟨fault, errorPath⟩ := e
    simp [eq_comm]
  | ok rules => cases nameOfData room data name <;> simp

theorem ofData_eq_crash {c : Crash} : ofData room data name path = .error (.crash c) ↔
    (∃ rules, HasRules data rules) ∧ Unnamable room data c := by
  simp only [ofData_eq, ← readRules_eq_ok, ← @nameOfData_eq_error room data name]
  cases readRules data with
  | error f => simp
  | ok rules => cases nameOfData room data name <;> simp

end OfData

/-! ## The number of an entry -/

theorem rule_append (index : Nat) (more : String) :
    "rule " ++ toString index ++ (" " ++ more) = s!"rule {index} " ++ more :=
  String.append_assoc.symm

theorem rule_append_tag (index : Nat) (tag more : String) :
    "rule " ++ toString index ++ (" " ++ "(") ++ tag ++ more =
      s!"rule {index} " ++ ("(" ++ tag ++ more) := by
  rw [← rule_append]
  simp only [String.append_assoc]

/-- What is said of an entry starts with its number. -/
theorem Lacks.exists_message {index : Nat} {v : Value} {f : ThemeFault} (h : Lacks index v f) :
    ∃ more, f.message = s!"rule {index} " ++ more := by
  cases h with
  | table => exact ⟨_, rule_append index "is not a table"⟩
  | tag => exact ⟨_, rule_append index "needs a 'type' string"⟩
  | @color _ tag => exact ⟨_, rule_append_tag index tag ") needs a 'color' string"⟩
  | @hex _ tag _ e =>
    have hmessage := congrArg (· ++ e.message) (rule_append_tag index tag "): ")
    exact ⟨_, hmessage.trans String.append_assoc⟩
  | @flags _ tag => exact ⟨_, rule_append_tag index tag "): 'italic' and 'bold' must be booleans"⟩

/-- **What is read as a theme.**  Data is read as a theme exactly if it has rules and its name has a text, and
then as the one with these rules.  Without rules it fails with its fault, for the path that was given.  If
it has a list of entries, what is said then starts with the number of the first entry that describes no
rule.  With rules, it crashes exactly over a name that has no text. -/
theorem ofData_reads (room : Nat) (data : Table Value) (name : String) (path : Option Path) :
    (∀ theme, ofData room data name path = .ok theme ↔
      HasRules data theme.rules ∧ HasName room data name theme.name) ∧
    (∀ e, ofData room data name path = .error (.theme e) ↔ HasFault data e.fault ∧ e.path = path) ∧
    ((∃ c, ofData room data name path = .error (.crash c)) ↔ (∃ rules, HasRules data rules) ∧
      ∃ v, Table.get? "name" data = some v ∧ ¬ v.HasText room) ∧
    ∀ items e, Table.get? "rule" data = some (.array items) →
      ofData room data name path = .error (.theme e) →
      ∃ before v after more, items = before ++ v :: after ∧
        (∀ u ∈ before, ∃ rule, Describes u rule) ∧ (∀ rule, ¬ Describes v rule) ∧
        e.fault.message = s!"rule {before.length + 1} " ++ more := by
  refine ⟨fun theme => ofData_eq_ok, fun e => ofData_eq_theme, ?_, fun items e hlist h => ?_⟩
  · simp only [ofData_eq_crash, exists_and_left, exists_unnamable_iff]
  obtain ⟨hfault, -⟩ := ofData_eq_theme.mp h
  generalize e.fault = fault at hfault ⊢
  cases hfault with
  | list hrules hnot =>
    obtain rfl := Option.some.inj (hlist.symm.trans hrules)
    exact absurd rfl (hnot items)
  | @entry before after v _ hrules hbefore hv =>
    obtain rfl := Value.array.inj (Option.some.inj (hlist.symm.trans hrules))
    obtain ⟨more, hmessage⟩ := hv.exists_message
    exact ⟨before, v, after, more, rfl, hbefore, hv.not_describes, hmessage⟩

/-- The second entry of this list is no table, and this is said of the second. -/
theorem ofData_reads_second :
    let entry := Value.table [("type", .string "index"), ("color", .string "#9cf")]
    let data : Table Value := [("rule", .array [entry, .bool true, .null])]
    ofData 1000 data "mine" none = .error (.theme ⟨.ruleNotTable 2, none⟩) ∧
      ∃ more, (ThemeFault.ruleNotTable 2).message = s!"rule {2} " ++ more := by
  intro entry data
  have hentry : Describes entry { tag := "index", color := ⟨0x99, 0xCC, 0xFF⟩ } :=
    .entry rfl (by decide) rfl rfl (Or.inr ⟨rfl, rfl⟩) (Or.inr ⟨rfl, rfl⟩)
  obtain ⟨-, hfails, -, hnames⟩ := ofData_reads 1000 data "mine" none
  have hrules : Table.get? "rule" data = some (.array ([entry] ++ .bool true :: [.null])) := rfl
  have herror : ofData 1000 data "mine" none = .error (.theme ⟨.ruleNotTable 2, none⟩) :=
    (hfails _).mpr ⟨.entry hrules (List.forall_mem_singleton.mpr ⟨_, hentry⟩)
      (.table fun _ h => by cases h), rfl⟩
  refine ⟨herror, ?_⟩
  obtain ⟨before, v, after, more, hitems, hbefore, hv, hmessage⟩ := hnames _ _ rfl herror
  rcases before with _ | ⟨u, _ | ⟨w, before⟩⟩
  · cases hitems
    exact absurd hentry (hv _)
  · exact ⟨more, hmessage⟩
  · obtain ⟨rfl, -⟩ := List.cons.inj (List.cons.inj hitems).2
    obtain ⟨rule, hrule⟩ := hbefore (.bool true) (by simp)
    cases hrule

/-- Data without rules, and with an integer of 4817 digits for its name, gives neither a theme nor an error
of themes. -/
theorem ofData_largeName :
    HasRules [("name", .integer (Nat.pow 16 4000))] [] ∧
      ofData 1000 [("name", .integer (Nat.pow 16 4000))] "mine" none = .error (.crash .largeInteger) := by
  have hrules : HasRules [("name", .integer (Nat.pow 16 4000))] [] := .absent rfl
  have hlarge : tooLarge ≤ (Nat.pow 16 4000 : Int).natAbs := by decide +kernel
  exact ⟨hrules, ofData_eq_crash.mpr ⟨⟨_, hrules⟩, _, rfl, (Value.text_of_large hlarge 999).2⟩⟩

/-! ## What is written for a theme -/

/-- A rule as data. -/
def ruleData (s : Color.Spelling) (rule : ThemeRule) : Value :=
  .table [("type", .string rule.tag), ("color", .string (String.ofList (rule.color.spell s))),
    ("italic", .bool rule.italic), ("bold", .bool rule.bold)]

/-- A theme as data, with the color of each rule in a spelling of its own. -/
def toData (spelling : Nat → Color.Spelling) (t : Theme) : Table Value :=
  [("name", .string t.name), ("rule", .array (t.rules.mapIdx fun i rule => ruleData (spelling i) rule))]

/-- What is written for a rule describes it. -/
theorem describes_ruleData (s : Color.Spelling) {rule : ThemeRule} (h : rule.tag ≠ "") :
    Describes (ruleData s rule) rule := by
  refine .entry rfl h rfl ?_ (Or.inl rfl) (Or.inl rfl)
  rw [String.toList_ofList]
  exact Color.ofHex_spell s rule.color

theorem describes_mapIdx (spelling : Nat → Color.Spelling) {rules : List ThemeRule}
    (h : ∀ rule ∈ rules, rule.tag ≠ "") :
    List.Forall₂ Describes (rules.mapIdx fun i rule => ruleData (spelling i) rule) rules := by
  induction rules generalizing spelling with
  | nil => exact .nil
  | cons rule rules ih =>
    obtain ⟨hrule, hrules⟩ := List.forall_mem_cons.mp h
    rw [List.mapIdx_cons]
    exact .cons (describes_ruleData _ hrule) (ih (fun i => spelling (i + 1)) hrules)

/-- **A theme is read back from what is written for it**, however its colors are spelled and whatever name is
at hand.  So is each color from its six digits, and the theme that is read has the same rule for any tags. -/
theorem ofData_toData (t : Theme) (h : ∀ rule ∈ t.rules, rule.tag ≠ "")
    (spelling : Nat → Color.Spelling) (room : Nat) (name : String) (path : Option Path) :
    ofData room (t.toData spelling) name path = .ok t ∧
    (∀ c : Color, Color.ofHex c.toHex = .ok c) ∧
    ∀ tags, (ofData room (t.toData spelling) name path).map (·.ruleFor tags) = .ok (t.ruleFor tags) := by
  have hread : ofData room (t.toData spelling) name path = .ok t :=
    ofData_eq_ok.mpr ⟨.entries rfl (describes_mapIdx spelling h), .given rfl rfl⟩
  refine ⟨hread, Color.ofHex_toHex, fun tags => ?_⟩
  rw [hread]
  rfl

/-- Two rules for the same tag, written in different ways. -/
theorem ofData_toData_repeated :
    let rule (color : String) (bold : Bool) : Value := .table [("type", .string "string"),
      ("color", .string color), ("italic", .bool false), ("bold", .bool bold)]
    ofData 1000
      [("name", .string "mine"), ("rule", .array [rule "#0a00B0" true, rule "0A0B0C" false])]
      "other" none = .ok ⟨"mine", [{ tag := "string", color := ⟨0x0A, 0, 0xB0⟩, bold := true },
        { tag := "string", color := ⟨0x0A, 0x0B, 0x0C⟩ }]⟩ := by
  intro rule
  have hread := ofData_toData
    ⟨"mine", [{ tag := "string", color := ⟨0x0A, 0, 0xB0⟩, bold := true },
      { tag := "string", color := ⟨0x0A, 0x0B, 0x0C⟩ }]⟩ (by decide)
    (fun i => { sign := i == 0, small := fun k => i == 0 && k == 1 }) 1000 "other" none
  exact hread.1

end Highlight.Theme
