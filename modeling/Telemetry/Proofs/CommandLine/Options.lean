import Telemetry.CommandLine.Options

/-!
# What arguments say to an option

Settings are changed option by option, so a part of them that one option alone changes depends on
the texts of that option alone, in their order.

* `occurrences`      the options that arguments name, each with its text;
* `textsOf`          the texts of the option with a name;
* `Follows`          a part of the settings that one option alone changes;
* `readFrom_follows` that part after all arguments, as a fold over those texts;
* `textsOf_joined`, `textsOf_apart`   arguments of the forms `--name=text` and `--name text`.
-/

namespace Telemetry.CommandLine

variable {σ α : Type} {opts : List (Opt σ)}

/-- the options that arguments name, each with its text, in order -/
def occurrences (opts : List (Opt σ)) : List String → List (Opt σ × String)
  | [] => []
  | argument :: rest =>
    match find? opts argument with
    | .error _ => []
    | .ok (o, some text) => (o, text) :: occurrences opts rest
    | .ok (o, none) =>
      match rest with
      | [] => []
      | text :: rest => (o, text) :: occurrences opts rest

/-- the texts of the options that have a name -/
def textsNamed (name : String) (os : List (Opt σ × String)) : List String :=
  (os.filter (·.1.name == name)).map (·.2)

/-- the texts that arguments give to the option with a name, in order -/
def textsOf (opts : List (Opt σ)) (name : String) (arguments : List String) : List String :=
  textsNamed name (occurrences opts arguments)

section
variable {argument text : String} {rest : List String} {o : Opt σ}

theorem textsNamed_cons_self {name : String} (h : o.name = name) (os : List (Opt σ × String)) :
    textsNamed name ((o, text) :: os) = text :: textsNamed name os := by
  rw [textsNamed, List.filter_cons_of_pos (by simpa using h)]
  rfl

theorem textsNamed_cons_of_ne {name : String} (h : o.name ≠ name) (os : List (Opt σ × String)) :
    textsNamed name ((o, text) :: os) = textsNamed name os := by
  rw [textsNamed, List.filter_cons_of_neg (by simpa using h)]
  rfl

theorem occurrences_joined (h : find? opts argument = .ok (o, some text)) :
    occurrences opts (argument :: rest) = (o, text) :: occurrences opts rest := by
  rw [occurrences, h]

theorem occurrences_apart (h : find? opts argument = .ok (o, none)) :
    occurrences opts (argument :: text :: rest) = (o, text) :: occurrences opts rest := by
  rw [occurrences, h]

theorem occurrences_error {why : Refusal} (h : find? opts argument = .error why) :
    occurrences opts (argument :: rest) = [] := by
  rw [occurrences, h]

theorem mem_of_find? {text? : Option String} (h : find? opts argument = .ok (o, text?)) :
    o ∈ opts := by
  unfold find? at h
  split at h
  · simp only at h
    split at h
    · rename_i hfind
      obtain ⟨rfl, -⟩ := Prod.mk.inj (Except.ok.inj h)
      exact List.mem_of_find?_eq_some hfind
    · exact nomatch h
  · split at h
    · rename_i hfind
      obtain ⟨rfl, -⟩ := Prod.mk.inj (Except.ok.inj h)
      exact List.mem_of_find?_eq_some hfind
    · exact nomatch h
  · exact nomatch h

theorem set_of_apply {used : List String} {s s' : σ} (h : o.apply used text s = .ok s') :
    o.set text s = some s' := by
  unfold Opt.apply at h
  split at h
  · exact nomatch h
  · split at h
    · rename_i hset
      rw [hset, Except.ok.inj h]
    · exact nomatch h

end

/-! ## a part of the settings -/

/-- an option that changes the part `view` of the settings if it has the name, and leaves it alone
otherwise -/
def Opt.Respects (o : Opt σ) (name : String) (view : σ → α) (change : α → String → Option α) :
    Prop :=
  ∀ text s s', o.set text s = some s' →
    if o.name = name then change (view s) text = some (view s') else view s' = view s

/-- the part `view` of the settings is changed by the option with the name, and by no other -/
def Follows (opts : List (Opt σ)) (name : String) (view : σ → α) (change : α → String → Option α) :
    Prop :=
  ∀ o ∈ opts, o.Respects name view change

section
variable {name : String} {view : σ → α} {change : α → String → Option α}

theorem Follows.nil : Follows [] name view change := fun _ h => absurd h List.not_mem_nil

theorem Follows.cons {o : Opt σ} (ho : o.Respects name view change)
    (h : Follows opts name view change) : Follows (o :: opts) name view change :=
  List.forall_mem_cons.2 ⟨ho, h⟩

theorem Follows.append {more : List (Opt σ)} (h : Follows opts name view change)
    (hmore : Follows more name view change) : Follows (opts ++ more) name view change :=
  List.forall_mem_append.2 ⟨h, hmore⟩

/-- an option with another name that keeps the part -/
theorem Opt.respects_of_keep {o : Opt σ} (hname : o.name ≠ name)
    (hkeep : ∀ text s s', o.set text s = some s' → view s' = view s) :
    o.Respects name view change := by
  intro text s s' h
  rw [if_neg hname]
  exact hkeep text s s' h

/-- an option with another name that puts what it reads elsewhere -/
theorem Opt.respects_of_put {β : Type} {o : Opt σ} {read : String → Option β} {put : β → σ → σ}
    (hname : o.name ≠ name) (hset : ∀ text s, o.set text s = (read text).map (put · s))
    (hput : ∀ x s, view (put x s) = view s) : o.Respects name view change := by
  refine Opt.respects_of_keep hname fun text s s' h => ?_
  rw [hset] at h
  obtain ⟨x, -, rfl⟩ := Option.map_eq_some_iff.1 h
  exact hput x s

/-- an option with its text changes the part as its text says, if it has the name -/
theorem Follows.foldlM_cons (h : Follows opts name view change) {o : Opt σ} (ho : o ∈ opts)
    {text : String} {s s' : σ} (hset : o.set text s = some s') (more : List (Opt σ × String)) :
    (textsNamed name ((o, text) :: more)).foldlM change (view s)
      = (textsNamed name more).foldlM change (view s') := by
  have hview := h o ho text s s' hset
  by_cases hname : o.name = name
  · rw [if_pos hname] at hview
    rw [textsNamed_cons_self hname, List.foldlM_cons, hview]
    rfl
  · rw [if_neg hname] at hview
    rw [textsNamed_cons_of_ne hname, hview]

/-- **The part of the settings after all arguments** is the part before them, changed by the texts
of its option in their order. -/
theorem readFrom_follows (h : Follows opts name view change) {used arguments : List String}
    {s s' : σ} (hread : readFrom opts used arguments s = .ok s') :
    (textsOf opts name arguments).foldlM change (view s) = some (view s') := by
  -- on the reading; each option with its text is one step of the fold
  fun_induction readFrom opts used arguments s with
  | case1 => rw [Except.ok.inj hread]; rfl
  | case2 used argument rest s why hfind hend =>
    rw [textsOf, occurrences_error hfind, Except.ok.inj hread]
    rfl
  | case4 used argument rest s o text hfind s₁ happly ih =>
    rw [textsOf, occurrences_joined hfind, h.foldlM_cons (mem_of_find? hfind) (set_of_apply happly)]
    exact ih hread
  | case7 used argument s o hfind text rest htext s₁ happly ih =>
    rw [textsOf, occurrences_apart hfind, h.foldlM_cons (mem_of_find? hfind) (set_of_apply happly)]
    exact ih hread
  | case3 | case5 | case6 | case8 | case9 => exact nomatch hread

end

/-! ## one option, spelled out -/

theorem find?_joined {name : String} (hname : '=' ∉ name.toList) {o : Opt σ}
    (ho : opts.find? (·.name == name) = some o) (text : String) :
    find? opts ("--" ++ name ++ "=" ++ text) = .ok (o, some text) := by
  have hlist : ("--" ++ name ++ "=" ++ text).toList
      = '-' :: '-' :: (name.toList ++ '=' :: text.toList) := by
    rw [String.toList_append, String.toList_append, String.toList_append]
    simp
  have hsplit : splitEquals (name.toList ++ '=' :: text.toList) = (name, some text) := by
    rw [splitEquals, Text.cutAt?_append hname]
    simp only [String.ofList_toList]
  unfold find?
  rw [hlist]
  simp only [hsplit, ho]

theorem find?_apart {name : String} (hname : '=' ∉ name.toList) {o : Opt σ}
    (ho : opts.find? (·.name == name) = some o) : find? opts ("--" ++ name) = .ok (o, none) := by
  have hlist : ("--" ++ name).toList = '-' :: '-' :: name.toList := by
    rw [String.toList_append]
    simp
  have hsplit : splitEquals name.toList = (name, none) := by
    rw [splitEquals, Text.cutAt?_eq_none.2 hname]
    simp only [String.ofList_toList]
  unfold find?
  rw [hlist]
  simp only [hsplit, ho]

theorem textsOf_joined {name : String} (hname : '=' ∉ name.toList) {o : Opt σ}
    (ho : opts.find? (·.name == name) = some o) (text : String) (rest : List String) :
    textsOf opts name (("--" ++ name ++ "=" ++ text) :: rest) = text :: textsOf opts name rest := by
  have hself : o.name = name := by simpa using List.find?_some ho
  rw [textsOf, occurrences_joined (find?_joined hname ho text), textsNamed_cons_self hself]
  rfl

theorem textsOf_apart {name : String} (hname : '=' ∉ name.toList) {o : Opt σ}
    (ho : opts.find? (·.name == name) = some o) (text : String) (rest : List String) :
    textsOf opts name (("--" ++ name) :: text :: rest) = text :: textsOf opts name rest := by
  have hself : o.name = name := by simpa using List.find?_some ho
  rw [textsOf, occurrences_apart (find?_apart hname ho), textsNamed_cons_self hself]
  rfl

/-- an option that may be repeated, with a text that fits it -/
theorem readFrom_joined {name : String} (hname : '=' ∉ name.toList) {o : Opt σ}
    (ho : opts.find? (·.name == name) = some o) (hrepeats : o.repeats = true) {text : String}
    {s s' : σ} (hset : o.set text s = some s') (used rest : List String) :
    readFrom opts used (("--" ++ name ++ "=" ++ text) :: rest) s
      = readFrom opts (o.name :: used) rest s' := by
  have happly : o.apply used text s = .ok s' := by
    rw [Opt.apply, hrepeats, hset]
    rfl
  rw [readFrom, find?_joined hname ho]
  simp only [happly]

end Telemetry.CommandLine
