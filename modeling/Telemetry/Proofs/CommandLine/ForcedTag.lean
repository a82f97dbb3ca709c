import Mathlib.Data.List.Induction
import Telemetry.CommandLine.Command
import Telemetry.Proofs.CommandLine.Options

/-!
# Forced tags on the command line

A text forces a tag if it is `measurement.tag=value`: the measurement ends at the first dot, and the
tag at the first equals sign, so the value may hold both.

* `Spells`           a text with its measurement, tag and value;
* `force`            a table of overrides after one more text;
* `LastForced`       what a list of texts forces on a tag: the last one that spells it wins;
* `last_tag_wins`    the table that the arguments of a task make.
-/

namespace Telemetry.CommandLine

/-! ## one text -/

/-- the text `measurement.tag=value` -/
structure Spells (text measurement tag value : String) : Prop where
  text_eq : text = measurement ++ "." ++ tag ++ "=" ++ value
  measurement_ne : measurement ≠ ""
  measurement_dot : '.' ∉ measurement.toList
  measurement_equals : '=' ∉ measurement.toList
  tag_ne : tag ≠ ""
  tag_equals : '=' ∉ tag.toList

theorem spelled_toList (m t v : String) :
    (m ++ "." ++ t ++ "=" ++ v).toList = (m.toList ++ '.' :: t.toList) ++ '=' :: v.toList := by
  simp [String.toList_append]

theorem spells_of_forcedTag? {text m t v : String} (h : forcedTag? text = some (m, t, v)) :
    Spells text m t v := by
  obtain ⟨⟨target, value⟩, htext, h⟩ := Option.bind_eq_some_iff.1 h
  obtain ⟨⟨measurement, tag⟩, htarget, h⟩ := Option.bind_eq_some_iff.1 h
  obtain ⟨hne, hparts⟩ := Option.ite_none_left_eq_some.1 h
  simp only [Option.some.injEq, Prod.mk.injEq] at hparts
  obtain ⟨rfl, rfl, rfl⟩ := hparts
  obtain ⟨hcs, hequals⟩ := Text.cutAt?_eq_some.1 htext
  obtain ⟨rfl, hdot⟩ := Text.cutAt?_eq_some.1 htarget
  simp only [Bool.or_eq_true, List.isEmpty_iff, not_or] at hne
  simp only [List.mem_append, List.mem_cons, not_or] at hequals
  refine ⟨?_, ?_, ?_, ?_, ?_, ?_⟩
  · rw [← String.toList_inj, spelled_toList, hcs]
    simp only [String.toList_ofList]
  · simpa using hne.1
  · simpa using hdot
  · simpa using hequals.1
  · simpa using hne.2
  · simpa using hequals.2.2

theorem Spells.forcedTag? {text m t v : String} (h : Spells text m t v) :
    forcedTag? text = some (m, t, v) := by
  have hequals : '=' ∉ m.toList ++ '.' :: t.toList := by
    simp [h.measurement_equals, h.tag_equals]
  have htext : Text.cutAt? '=' text.toList = some (m.toList ++ '.' :: t.toList, v.toList) := by
    rw [h.text_eq, spelled_toList, Text.cutAt?_append hequals]
  have htarget : Text.cutAt? '.' (m.toList ++ '.' :: t.toList) = some (m.toList, t.toList) :=
    Text.cutAt?_append h.measurement_dot t.toList
  simp [CommandLine.forcedTag?, htext, htarget, h.measurement_ne, h.tag_ne]

theorem forcedTag?_eq_some {text m t v : String} :
    forcedTag? text = some (m, t, v) ↔ Spells text m t v :=
  ⟨spells_of_forcedTag?, Spells.forcedTag?⟩

/-- a text spells at most one tag, with one value -/
theorem Spells.unique {text m t v m' t' v' : String} (h : Spells text m t v)
    (h' : Spells text m' t' v') : m' = m ∧ t' = t ∧ v' = v := by
  have heq := h'.forcedTag?.symm.trans h.forcedTag?
  obtain ⟨hm, heq⟩ := Prod.mk.inj (Option.some.inj heq)
  exact ⟨hm, Prod.mk.inj heq⟩

/-! ## texts in a row -/

/-- the table after one more text, if the text forces a tag -/
def force (o : Overrides) (text : String) : Option Overrides :=
  (forcedTag? text).map fun (m, t, v) => o.set m t v

/-- what texts force on a tag: the value of the last one that spells it -/
inductive LastForced (texts : List String) (m t : String) : Option String → Prop
  | never (h : ∀ text ∈ texts, ∀ v, ¬ Spells text m t v) : LastForced texts m t none
  | last {before after : List String} {text v : String} (hsplit : texts = before ++ text :: after)
      (h : Spells text m t v) (hafter : ∀ later ∈ after, ∀ v', ¬ Spells later m t v') :
      LastForced texts m t (some v)

theorem force_eq_some {o o' : Overrides} {text : String} :
    force o text = some o' ↔ ∃ m t v, Spells text m t v ∧ o' = o.set m t v := by
  constructor
  · intro h
    obtain ⟨⟨m, t, v⟩, hforced, rfl⟩ := Option.map_eq_some_iff.1 h
    exact ⟨m, t, v, forcedTag?_eq_some.1 hforced, rfl⟩
  · rintro ⟨m, t, v, hspells, rfl⟩
    rw [force, hspells.forcedTag?]
    rfl

theorem LastForced.concat_self (texts : List String) {text m t v : String}
    (h : Spells text m t v) : LastForced (texts ++ [text]) m t (some v) :=
  .last rfl h fun _ hlater => absurd hlater List.not_mem_nil

theorem LastForced.concat_other {texts : List String} {text m t : String} {value : Option String}
    (h : LastForced texts m t value) (hother : ∀ v, ¬ Spells text m t v) :
    LastForced (texts ++ [text]) m t value := by
  have hmem {after : List String} (hafter : ∀ later ∈ after, ∀ v, ¬ Spells later m t v) :
      ∀ later ∈ after ++ [text], ∀ v, ¬ Spells later m t v := by
    intro later hlater
    obtain hlater | hlater := List.mem_append.1 hlater
    · exact hafter later hlater
    · rw [List.mem_singleton.1 hlater]
      exact hother
  cases h with
  | never h => exact .never (hmem h)
  | @last before after winner v hsplit h hafter =>
    have hsplit' : texts ++ [text] = before ++ winner :: (after ++ [text]) := by
      rw [hsplit, List.append_assoc, List.cons_append]
    exact .last hsplit' h (hmem hafter)

/-- **What a table holds after texts**, one by one from an empty table, is what the last text for
each tag spells. -/
theorem lastForced_of_force {texts : List String} {o : Overrides}
    (h : texts.foldlM force {} = some o) (m t : String) : LastForced texts m t (o.get? m t) := by
  -- on the texts from their end: the last one is the one that may win
  induction texts using List.reverseRecOn generalizing o with
  | nil =>
    obtain rfl := Option.some.inj h
    exact .never fun text htext => absurd htext List.not_mem_nil
  | append_singleton texts text ih =>
    rw [List.foldlM_append] at h
    obtain ⟨o₁, hinit, hlast⟩ := Option.bind_eq_some_iff.1 h
    obtain ⟨o₂, hforce, hend⟩ := Option.bind_eq_some_iff.1 hlast
    obtain rfl := Option.some.inj hend
    obtain ⟨m', t', v, hspells, rfl⟩ := force_eq_some.1 hforce
    by_cases hsame : m = m' ∧ t = t'
    · obtain ⟨rfl, rfl⟩ := hsame
      rw [Overrides.get?_set_self]
      exact .concat_self texts hspells
    · rw [Overrides.get?_set_of_ne o₁ v (not_and_or.1 hsame)]
      refine (ih hinit).concat_other fun v' hspells' => hsame ?_
      obtain ⟨hm, ht, -⟩ := hspells.unique hspells'
      exact ⟨hm, ht⟩

/-- texts make a table if each of them forces a tag -/
theorem foldlM_force_isSome {texts : List String} {o : Overrides} :
    (∃ o', texts.foldlM force o = some o') ↔ ∀ text ∈ texts, ∃ m t v, Spells text m t v := by
  induction texts generalizing o with
  | nil => exact ⟨fun _ _ h => absurd h List.not_mem_nil, fun _ => ⟨o, rfl⟩⟩
  | cons text texts ih =>
    rw [List.forall_mem_cons]
    constructor
    · rintro ⟨o', h⟩
      obtain ⟨o₁, h₁, h⟩ := Option.bind_eq_some_iff.1 h
      obtain ⟨m, t, v, hspells, -⟩ := force_eq_some.1 h₁
      exact ⟨⟨m, t, v, hspells⟩, ih.1 ⟨o', h⟩⟩
    · rintro ⟨⟨m, t, v, hspells⟩, hrest⟩
      obtain ⟨o', h⟩ := ih.2 hrest
      exact ⟨o', by rw [List.foldlM_cons, force_eq_some.2 ⟨m, t, v, hspells, rfl⟩]; exact h⟩

/-! ## the arguments of a task -/

/-- the table of overrides in the settings of a task -/
def Settings.overrides (s : Settings) : Overrides := s.config.overrides

/-- an option that forces tags by its texts, as many as there are -/
structure ForcesTags (o : Opt Settings) : Prop where
  name_eq : o.name = "tag"
  repeats_eq : o.repeats = true
  set_eq : ∀ text s, o.set text s = (force s.overrides text).map fun table =>
    { s with config := { s.config with overrides := table } }

theorem ForcesTags.respects {o : Opt Settings} (h : ForcesTags o) :
    o.Respects "tag" Settings.overrides force := by
  intro text s s' hset
  rw [h.set_eq] at hset
  obtain ⟨table, hforce, rfl⟩ := Option.map_eq_some_iff.1 hset
  rw [if_pos h.name_eq, hforce]
  rfl

theorem forcesTags_configOpt :
    ForcesTags { configOpt "tag" none fun text c =>
      (forcedTag? text).map fun (m, t, v) => { c with overrides := c.overrides.set m t v } with
      repeats := true } where
  name_eq := rfl
  repeats_eq := rfl
  set_eq text s := by
    show Option.map _ (Option.map _ _) = Option.map _ (Option.map _ _)
    rw [Option.map_map, Option.map_map]
    rfl

/-- an option with another name that changes the configuration, but not the table -/
theorem configOpt_respects {β : Type} {name : String} {letter : Option Char}
    {read : String → Option β} {put : β → Config → Config} (hname : name ≠ "tag")
    (hput : ∀ x c, (put x c).overrides = c.overrides) :
    (configOpt name letter fun text c => (read text).map fun x => put x c).Respects "tag"
      Settings.overrides force := by
  have hset (text : String) (s : Settings) :
      (configOpt name letter fun text c => (read text).map fun x => put x c).set text s
        = (read text).map fun x => { s with config := put x s.config } :=
    Option.map_map ..
  exact Opt.respects_of_put hname hset fun x s => hput x s.config

theorem windowOptions_follow : Follows windowOptions "tag" Settings.overrides force :=
  .cons (configOpt_respects (by decide) fun _ _ => rfl) <|
  .cons (configOpt_respects (by decide) fun _ _ => rfl) .nil

theorem gridOptions_follow : Follows gridOptions "tag" Settings.overrides force :=
  .cons (configOpt_respects (by decide) fun _ _ => rfl) <|
  .cons (configOpt_respects (by decide) fun _ _ => rfl) .nil

theorem fleetOptions_follow : Follows fleetOptions "tag" Settings.overrides force :=
  .cons (configOpt_respects (by decide) fun _ _ => rfl) <|
  .cons (configOpt_respects (by decide) fun _ _ => rfl) <|
  .cons (configOpt_respects (by decide) fun _ _ => rfl) <|
  .cons (configOpt_respects (by decide) fun _ _ => rfl) <|
  .cons (Opt.respects_of_put (by decide) (fun _ _ => Option.map_map ..) fun _ _ => rfl) <|
  .cons (configOpt_respects (by decide) fun _ _ => rfl) <|
  .cons forcesTags_configOpt.respects .nil

theorem outputOption_respects : outputOption.Respects "tag" Settings.overrides force := by
  refine Opt.respects_of_keep (by decide) fun text s s' h => ?_
  obtain ⟨-, h⟩ := Option.ite_none_left_eq_some.1 h
  rw [← Option.some.inj h]
  rfl

theorem workersOption_respects : workersOption.Respects "tag" Settings.overrides force :=
  Opt.respects_of_put (by decide) (fun _ _ => rfl) fun _ _ => rfl

theorem rowOptions_follow : Follows rowOptions "tag" Settings.overrides force :=
  .cons (Opt.respects_of_put (by decide) (fun _ _ => rfl) fun _ _ => rfl) <|
  .cons (Opt.respects_of_put (by decide) (fun _ _ => rfl) fun _ _ => rfl) .nil

theorem queryOptions_follow : Follows queryOptions "tag" Settings.overrides force :=
  .cons (Opt.respects_of_keep (by decide) fun _ _ _ h => by rw [← Option.some.inj h]; rfl) <|
  .cons (Opt.respects_of_put (by decide) (fun _ _ => rfl) fun _ _ => rfl) <|
  .cons (Opt.respects_of_put (by decide) (fun _ _ => rfl) fun _ _ => rfl) <|
  .cons (Opt.respects_of_put (by decide) (fun _ _ => rfl) fun _ _ => rfl) .nil

/-- of all options, `--tag` alone changes the table -/
theorem options_follow (task : Task) : Follows task.options "tag" Settings.overrides force := by
  have hrows := Follows.cons outputOption_respects rowOptions_follow
  cases task with
  | points =>
    exact (fleetOptions_follow.append windowOptions_follow).append
      (.cons workersOption_respects hrows)
  | queries =>
    exact (fleetOptions_follow.append windowOptions_follow).append
      (.cons outputOption_respects queryOptions_follow)
  | metaquery => exact (gridOptions_follow.append windowOptions_follow).append hrows

theorem find?_tag {task : Task} (h : task ≠ .metaquery) :
    ∃ o, task.options.find? (·.name == "tag") = some o ∧ ForcesTags o := by
  cases task with
  | points | queries => exact ⟨_, rfl, forcesTags_configOpt⟩
  | metaquery => exact absurd rfl h

theorem defaults_overrides (task : Task) : task.defaults.overrides = {} := by
  cases task <;> rfl

/-- settings that a task reads are the settings that its options make -/
theorem readOptions_of_read {task : Task} {arguments : List String} {s : Settings}
    (h : task.read arguments = .ok s) :
    readOptions task.options arguments task.defaults = .ok s := by
  cases hread : readOptions task.options arguments task.defaults with
  | error why => rw [Task.read, hread] at h; exact nomatch h
  | ok s₁ =>
    rw [Task.read, hread] at h
    change (if task = .queries ∧ s₁.templates = [] then throw Refusal.misuse else return s₁)
      = Except.ok s at h
    split at h
    · exact nomatch h
    · exact h

theorem foldlM_force_of_read {task : Task} {arguments : List String} {s : Settings}
    (h : readOptions task.options arguments task.defaults = .ok s) :
    (textsOf task.options "tag" arguments).foldlM force {} = some s.overrides := by
  rw [← defaults_overrides task]
  exact readFrom_follows (options_follow task) h

/-- texts that all force a tag are accepted -/
theorem readFrom_of_spelled {task : Task} (htask : task ≠ .metaquery) {texts : List String}
    (h : ∀ text ∈ texts, ∃ m t v, Spells text m t v) (used : List String) (s : Settings) :
    ∃ s', readFrom task.options used (texts.map ("--tag=" ++ ·)) s = .ok s' := by
  obtain ⟨o, hfind, ho⟩ := find?_tag htask
  induction texts generalizing used s with
  | nil => exact ⟨s, by rw [List.map_nil, readFrom]⟩
  | cons text texts ih =>
    obtain ⟨⟨m, t, v, hspells⟩, hrest⟩ := List.forall_mem_cons.1 h
    have hset := ho.set_eq text s
    rw [force_eq_some.2 ⟨m, t, v, hspells, rfl⟩, Option.map_some] at hset
    obtain ⟨s', hs'⟩ := ih hrest (o.name :: used) _
    refine ⟨s', ?_⟩
    rw [← hs']
    exact readFrom_joined (by decide) hfind ho.repeats_eq hset used _

/-- the texts of `--tag`, whether they share its argument or not -/
theorem textsOf_tag {task : Task} (htask : task ≠ .metaquery) (text : String)
    (rest : List String) :
    textsOf task.options "tag" (("--tag=" ++ text) :: rest)
        = text :: textsOf task.options "tag" rest ∧
      textsOf task.options "tag" ("--tag" :: text :: rest)
        = text :: textsOf task.options "tag" rest := by
  obtain ⟨o, hfind, -⟩ := find?_tag htask
  exact ⟨textsOf_joined (by decide) hfind text rest, textsOf_apart (by decide) hfind text rest⟩

theorem textsOf_tags {task : Task} (htask : task ≠ .metaquery) (texts : List String) :
    textsOf task.options "tag" (texts.map ("--tag=" ++ ·)) = texts := by
  induction texts with
  | nil => rfl
  | cons text texts ih => rw [List.map_cons, (textsOf_tag htask text _).1, ih]

/-- **The last `--tag` of a tag wins.**  Texts are read as they are spelled, each in one way only;
the table of a task that is read holds for each tag what the last text for it spells, and nothing
for a tag without one; and texts are accepted just if each of them is spelled. -/
theorem last_tag_wins :
    (∀ text m t v, forcedTag? text = some (m, t, v) ↔ Spells text m t v) ∧
    (∀ text m t v m' t' v', Spells text m t v → Spells text m' t' v' →
      m' = m ∧ t' = t ∧ v' = v) ∧
    (∀ (task : Task) arguments settings, task.read arguments = .ok settings →
      (∀ text ∈ textsOf task.options "tag" arguments, ∃ m t v, Spells text m t v) ∧
      ∀ m t, LastForced (textsOf task.options "tag" arguments) m t
        (settings.config.overrides.get? m t)) ∧
    ∀ task ≠ Task.metaquery,
      (∀ text rest,
        textsOf task.options "tag" (("--tag=" ++ text) :: rest)
            = text :: textsOf task.options "tag" rest ∧
          textsOf task.options "tag" ("--tag" :: text :: rest)
            = text :: textsOf task.options "tag" rest) ∧
      ∀ texts : List String,
        (∃ settings, readOptions task.options (texts.map ("--tag=" ++ ·)) task.defaults
            = .ok settings) ↔ ∀ text ∈ texts, ∃ m t v, Spells text m t v := by
  refine ⟨fun _ _ _ _ => forcedTag?_eq_some, fun _ _ _ _ _ _ _ h h' => h.unique h', ?_, ?_⟩
  · intro task arguments settings hread
    have htable := foldlM_force_of_read (readOptions_of_read hread)
    exact ⟨foldlM_force_isSome.1 ⟨_, htable⟩, lastForced_of_force htable⟩
  · intro task htask
    refine ⟨textsOf_tag htask, fun texts => ⟨?_, fun h => ?_⟩⟩
    · rintro ⟨settings, hread⟩
      have htable := foldlM_force_of_read hread
      rw [textsOf_tags htask] at htable
      exact foldlM_force_isSome.1 ⟨_, htable⟩
    · exact readFrom_of_spelled htask h [] task.defaults

/-- a tag with a dot in its name, forced twice: the second value, with a dot and an equals sign,
wins over the first, whatever stands between them -/
theorem last_tag_wins_given_twice :
    Spells "cpu.rack.row=a.b=c" "cpu" "rack.row" "a.b=c" ∧
    (∃ settings, readOptions Task.queries.options ["--tag=cpu.rack.row=a.b=c"] Task.queries.defaults
      = .ok settings) ∧
    ∃ settings, Task.points.read
        ["--tag=cpu.rack.row=1", "--entities", "5", "--tag", "cpu.rack.row=a.b=c", "--tag=mem.os="]
        = .ok settings ∧
      LastForced ["cpu.rack.row=1", "cpu.rack.row=a.b=c", "mem.os="] "cpu" "rack.row"
        (settings.config.overrides.get? "cpu" "rack.row") ∧
      settings.config.overrides.get? "cpu" "rack.row" = some "a.b=c" := by
  have hspells : Spells "cpu.rack.row=a.b=c" "cpu" "rack.row" "a.b=c" :=
    (last_tag_wins.1 ..).1 (by decide)
  refine ⟨hspells, ?_, _, rfl, ?_, by decide⟩
  · refine ((last_tag_wins.2.2.2 .queries (by decide)).2 ["cpu.rack.row=a.b=c"]).2 ?_
    exact List.forall_mem_singleton.2 ⟨_, _, _, hspells⟩
  · exact (last_tag_wins.2.2.1 .points ["--tag=cpu.rack.row=1", "--entities", "5", "--tag",
      "cpu.rack.row=a.b=c", "--tag=mem.os="] _ rfl).2 "cpu" "rack.row"

end Telemetry.CommandLine
