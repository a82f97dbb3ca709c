import Mathlib.Data.List.Basic
import Telemetry.Proofs.Fleet.Stored

/-!
# What a fleet answers

The answers to operations in order, and what becomes of new templates.

* `Query`               a query with all that is seen of it;
* `Answer`, `respond`, `respondAll`  what operations answer, and the fleet after them;
* `respondAll_run`      the fleet is the one that `performAll` leaves;
* `Installable`, `Refused`  texts that can be installed, and why others cannot;
* `Op.accepted?`        the templates that an operation puts in place of the old ones;
* `verdict`             what texts are read as, and `verdict_iff` that they are one or the other;
* `respondAll_kept`     refused installations can be left out: nothing else answers anything else.
-/

namespace Telemetry.Fleet

open Telemetry.Random Telemetry.Template

/-! ## answers -/

/-- a query: the time up to which all rows were stored, the sink that was given, the answer, and the
sink that is left -/
structure Query where
  now : Int64
  given : Sink
  answer : Except QueryStop UInt64
  left : Sink

inductive Answer where
  | next (number : UInt64) (row : Point)
  | query (q : Query)
  | written
  | install (result : Except Fault Unit)

/-- whether an operation was a refused installation -/
def Answer.refused : Answer → Bool
  | .install (.error _) => true
  | _ => false

/-- the answer to an operation, and the fleet after it -/
def respond (f : Fleet) : Op → Draw (Answer × Fleet)
  | .next p => do
    let (number, row, f') ← f.next p
    return (.next number row, f')
  | .query sink => do
    let (answer, left, f') ← f.nextQuery sink
    return (.query ⟨f.now, sink, answer, left⟩, f')
  | .written count => return (.written, f.setWritten count)
  | .install templates times =>
    match f.install templates times with
    | .ok f' => return (.install (.ok ()), f')
    | .error e => return (.install (.error e), f)

def respondAll (f : Fleet) : List Op → Draw (List Answer × Fleet)
  | [] => return ([], f)
  | op :: ops => do
    let (answer, f') ← f.respond op
    let (answers, f'') ← f'.respondAll ops
    return (answer :: answers, f'')

section
variable (f : Fleet) (op : Op) (ops : List Op) (s : Stream)

theorem respondAll_cons :
    (f.respondAll (op :: ops)).run s
      = ((((f.respond op).run s).1.1
            :: ((((f.respond op).run s).1.2.respondAll ops).run ((f.respond op).run s).2).1.1,
          ((((f.respond op).run s).1.2.respondAll ops).run ((f.respond op).run s).2).1.2),
        ((((f.respond op).run s).1.2.respondAll ops).run ((f.respond op).run s).2).2) := rfl

theorem respond_run :
    (((f.respond op).run s).1.2, ((f.respond op).run s).2) = (f.perform op).run s := by
  cases op with
  | next p => rfl
  | query sink => rfl
  | written count => rfl
  | install templates times =>
    rw [respond, perform]
    cases f.install templates times <;> rfl

theorem respondAll_run :
    (((f.respondAll ops).run s).1.2, ((f.respondAll ops).run s).2) = (f.performAll ops).run s := by
  induction ops generalizing f s with
  | nil => rfl
  | cons op ops ih =>
    have hstep := respond_run f op s
    rw [respondAll_cons, performAll, StateT.run_bind, ← hstep]
    exact ih _ _

theorem respondAll_concat :
    (f.respondAll (ops ++ [op])).run s
      = ((((f.respondAll ops).run s).1.1
            ++ [((((f.respondAll ops).run s).1.2.respond op).run ((f.respondAll ops).run s).2).1.1],
          ((((f.respondAll ops).run s).1.2.respond op).run ((f.respondAll ops).run s).2).1.2),
        ((((f.respondAll ops).run s).1.2.respond op).run ((f.respondAll ops).run s).2).2) := by
  induction ops generalizing f s with
  | nil => rfl
  | cons op' ops ih =>
    rw [List.cons_append, respondAll_cons, ih, respondAll_cons]
    rfl

end

/-! ## new templates -/

section
variable {keys : List String} {times : Nat} {texts : List String}

structure Installable (keys : List String) (times : Nat) (texts : List String) : Prop where
  ne_nil : texts ≠ []
  times_pos : 0 < times
  parses : ∀ text ∈ texts, ∃ t, parse text keys times = .ok t

/-- why texts are refused: there are none, or the first that does not parse has this fault -/
inductive Refused (keys : List String) (times : Nat) : List String → Fault → Prop where
  | none : Refused keys times [] .noTemplates
  | first {before after : List String} {text : String} {e : Fault}
    (hbefore : ∀ u ∈ before, ∃ t, parse u keys times = .ok t)
    (h : parse text keys times = .error e) : Refused keys times (before ++ text :: after) e

def Op.accepted? (keys : List String) : Op → Option (List Template)
  | .install texts times =>
    if texts.isEmpty then none else texts.mapM fun text => (parse text keys times).toOption
  | _ => none

theorem parse_times_pos {text : String} {t : Template} (h : parse text keys times = .ok t) :
    0 < times := by
  rw [parse] at h
  split at h
  · exact absurd h (by simp)
  · omega

theorem parseAll_cons_of_ok {text : String} {t : Template} (h : parse text keys times = .ok t) :
    parseAll keys times (text :: texts) = (parseAll keys times texts).map (t :: ·) := by
  rw [parseAll, h]

theorem parseAll_cons_of_error {text : String} {e : Fault} (h : parse text keys times = .error e) :
    parseAll keys times (text :: texts) = .error e := by
  rw [parseAll, h]

/-- texts are read one by one, up to the first that does not parse -/
theorem parseAll_spec (keys : List String) (times : Nat) (texts : List String) :
    (∃ ts, parseAll keys times texts = .ok ts
        ∧ (texts.mapM fun text => (parse text keys times).toOption) = some ts
        ∧ List.Forall₂ (fun text t => parse text keys times = .ok t) texts ts)
      ∨ ∃ before text after e, parseAll keys times texts = .error e
        ∧ (texts.mapM fun text => (parse text keys times).toOption) = none
        ∧ texts = before ++ text :: after ∧ (∀ u ∈ before, ∃ t, parse u keys times = .ok t)
        ∧ parse text keys times = .error e := by
  induction texts with
  | nil => exact .inl ⟨[], rfl, rfl, .nil⟩
  | cons text texts ih =>
    rw [List.mapM_cons]
    cases htext : parse text keys times with
    | error e =>
      exact .inr ⟨[], text, texts, e, parseAll_cons_of_error htext, rfl, rfl,
        List.forall_mem_nil _, htext⟩
    | ok t =>
      rw [parseAll_cons_of_ok htext]
      rcases ih with ⟨ts, hall, hmap, hparses⟩ | ⟨before, bad, after, e, hall, hmap, rfl, hbefore, hbad⟩
      · rw [hall, hmap]
        exact .inl ⟨t :: ts, rfl, rfl, .cons htext hparses⟩
      · rw [hall, hmap]
        exact .inr ⟨text :: before, bad, after, e, rfl, rfl, rfl,
          List.forall_mem_cons.2 ⟨⟨t, htext⟩, hbefore⟩, hbad⟩

theorem parseAll_of_first {before after : List String} {text : String} {e : Fault}
    (hbefore : ∀ u ∈ before, ∃ t, parse u keys times = .ok t)
    (h : parse text keys times = .error e) :
    parseAll keys times (before ++ text :: after) = .error e := by
  induction before with
  | nil => exact parseAll_cons_of_error h
  | cons u before ih =>
    obtain ⟨⟨t, hu⟩, hbefore⟩ := List.forall_mem_cons.1 hbefore
    rw [List.cons_append, parseAll_cons_of_ok hu, ih hbefore]
    rfl

theorem Installable.not_refused (h : Installable keys times texts) {e : Fault} :
    ¬ Refused keys times texts e := by
  intro hrefused
  cases hrefused with
  | none => exact h.ne_nil rfl
  | @first before after text e hbefore hbad =>
    obtain ⟨t, ht⟩ := h.parses text (List.mem_append_right before List.mem_cons_self)
    rw [hbad] at ht
    exact absurd ht (by simp)

theorem parses_of_forall₂ {ts : List Template}
    (h : List.Forall₂ (fun text t => parse text keys times = .ok t) texts ts) :
    (∀ text ∈ texts, ∃ t, parse text keys times = .ok t)
      ∧ ∀ t ∈ ts, ∃ text, parse text keys times = .ok t := by
  induction h with
  | nil => exact ⟨List.forall_mem_nil _, List.forall_mem_nil _⟩
  | @cons text t texts ts hparse hrest ih =>
    exact ⟨List.forall_mem_cons.2 ⟨⟨t, hparse⟩, ih.1⟩,
      List.forall_mem_cons.2 ⟨⟨text, hparse⟩, ih.2⟩⟩

/-- templates that can be installed over some tag keys -/
structure Ready (keys : List String) (ts : List Template) : Prop where
  ne_nil : ts ≠ []
  parsed : ∀ t ∈ ts, ∃ text times, parse text keys times = .ok t

/-- what some texts are read as, if they can be installed -/
def verdict (keys : List String) (times : Nat) (texts : List String) :
    Except Fault (List Template) :=
  if texts.isEmpty then .error .noTemplates else parseAll keys times texts

theorem install_eq (f : Fleet) (texts : List String) (times : Nat) :
    f.install texts times
      = (verdict f.tagKeys times texts).map fun ts => { f with templates := ts } := by
  rw [install, verdict]
  split <;> rfl

/-- texts can be installed, or they are refused -/
theorem verdict_spec (keys : List String) (times : Nat) (texts : List String) :
    (∃ ts, verdict keys times texts = .ok ts
        ∧ Op.accepted? keys (.install texts times) = some ts
        ∧ Ready keys ts ∧ Installable keys times texts)
      ∨ ∃ e, verdict keys times texts = .error e
        ∧ Op.accepted? keys (.install texts times) = none ∧ Refused keys times texts e := by
  cases texts with
  | nil => exact .inr ⟨.noTemplates, rfl, rfl, .none⟩
  | cons text rest =>
    have hverdict : verdict keys times (text :: rest) = parseAll keys times (text :: rest) := rfl
    rcases parseAll_spec keys times (text :: rest) with
      ⟨ts, hall, hmap, hforall⟩ | ⟨before, bad, after, e, hall, hmap, hcut, hbefore, hbad⟩
    · obtain ⟨hparses, hparsed⟩ := parses_of_forall₂ hforall
      obtain ⟨t, ht⟩ := hparses text List.mem_cons_self
      have hne : ts ≠ [] := by
        rintro rfl
        cases hforall
      exact .inl ⟨ts, hverdict.trans hall, hmap,
        ⟨hne, fun t ht => (hparsed t ht).imp fun _ h => ⟨times, h⟩⟩,
        List.cons_ne_nil text rest, parse_times_pos ht, hparses⟩
    · refine .inr ⟨e, hverdict.trans hall, hmap, ?_⟩
      rw [hcut]
      exact .first hbefore hbad

theorem Op.accepted?_ready {op : Op} {ts : List Template} (h : op.accepted? keys = some ts) :
    Ready keys ts := by
  cases op with
  | install texts times =>
    rcases verdict_spec keys times texts with ⟨ts', -, haccepted, hready, -⟩ | ⟨e, -, hnone, -⟩
    · rw [haccepted, Option.some.injEq] at h
      rwa [h] at hready
    · rw [hnone] at h
      exact absurd h (by simp)
  | next p => exact absurd h (by simp [accepted?])
  | query sink => exact absurd h (by simp [accepted?])
  | written count => exact absurd h (by simp [accepted?])

theorem Refused.verdict_eq {e : Fault} (h : Refused keys times texts e) :
    verdict keys times texts = .error e := by
  cases h with
  | none => rfl
  | @first before after text e hbefore h =>
    have hne : (before ++ text :: after).isEmpty = false := by simp
    rw [verdict, hne, parseAll_of_first hbefore h]
    rfl

/-- **What becomes of texts**: they are read exactly if they can be installed, and otherwise the
error is that there are none, or that of the first that does not parse. -/
theorem verdict_iff (keys : List String) (times : Nat) (texts : List String) :
    ((∃ ts, verdict keys times texts = .ok ts) ↔ Installable keys times texts)
      ∧ ∀ e, verdict keys times texts = .error e ↔ Refused keys times texts e := by
  rcases verdict_spec keys times texts with ⟨ts, hok, -, -, hinstallable⟩ | ⟨e, herror, -, hbad⟩
  · refine ⟨iff_of_true ⟨ts, hok⟩ hinstallable, fun e => iff_of_false ?_ hinstallable.not_refused⟩
    rw [hok]
    simp
  · refine ⟨iff_of_false ?_ fun h => h.not_refused hbad, fun e' => ⟨fun h => ?_, Refused.verdict_eq⟩⟩
    · rw [herror]
      simp
    · rw [herror] at h
      obtain rfl := Except.error.inj h
      exact hbad

theorem respond_install (f : Fleet) (texts : List String) (times : Nat) :
    f.respond (.install texts times) = match verdict f.tagKeys times texts with
      | .ok ts => return (.install (.ok ()), { f with templates := ts })
      | .error e => return (.install (.error e), f) := by
  rw [respond, install_eq]
  cases verdict f.tagKeys times texts <;> rfl

end

/-! ## refused installations -/

/-- some operations without those that were refused -/
def kept (ops : List Op) (answers : List Answer) : List Op :=
  ((ops.zip answers).filter fun x => !x.2.refused).map (·.1)

section
variable (f : Fleet) (op : Op) (ops : List Op) (s : Stream)

/-- a refused installation changes nothing -/
theorem respond_refused (h : ((f.respond op).run s).1.1.refused = true) :
    ((f.respond op).run s).1.2 = f ∧ ((f.respond op).run s).2 = s := by
  cases op with
  | next p => exact absurd h Bool.noConfusion
  | query sink => exact absurd h Bool.noConfusion
  | written count => exact absurd h Bool.noConfusion
  | install texts times =>
    rw [respond_install] at h ⊢
    cases hverdict : verdict f.tagKeys times texts with
    | ok ts =>
      rw [hverdict] at h
      exact absurd h Bool.noConfusion
    | error e => exact ⟨rfl, rfl⟩

/-- **Refused installations can be left out.**  All other operations answer the same without them,
and the fleet and the draws after them are the same. -/
theorem respondAll_kept :
    (f.respondAll (kept ops ((f.respondAll ops).run s).1.1)).run s
      = ((((f.respondAll ops).run s).1.1.filter fun a => !a.refused,
          ((f.respondAll ops).run s).1.2), ((f.respondAll ops).run s).2) := by
  induction ops generalizing f s with
  | nil => rfl
  | cons op ops ih =>
    have hrest := ih ((f.respond op).run s).1.2 ((f.respond op).run s).2
    rw [respondAll_cons, kept, List.zip_cons_cons, List.filter_cons, List.filter_cons]
    cases hrefused : ((f.respond op).run s).1.1.refused with
    | true =>
      obtain ⟨hfleet, hdraws⟩ := respond_refused f op s hrefused
      rw [hfleet, hdraws] at hrest ⊢
      exact hrest
    | false =>
      rw [Bool.not_false, if_pos rfl, if_pos rfl, List.map_cons, respondAll_cons]
      rw [kept] at hrest
      rw [hrest]

end

end Telemetry.Fleet
