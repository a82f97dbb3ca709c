import Mathlib.Algebra.GroupWithZero.Nat
import Telemetry.Entity.Basic
import Telemetry.Proofs.Random.Draw
import Telemetry.Proofs.Template.Grammar
import Telemetry.Template.Render

/-!
# What an instance of a template says

The text of an instance, segment by segment, and the draws that it takes.

* `Puts m s a text s'`  a computation that writes a text, whole or cut where the sink is full, on
                        its way from one stream to another;
* `Sound keys seg`      a segment as the reader makes it, over some tag keys;
* `Shows`               the texts that a segment can stand for, once the primary entity is drawn;
* `Source.Holds`        a source whose values are the tags of some entities;
* `Source.Holds.puts_all`  such a source has a text for every template that was read with its keys.

A text is put together as the computation is: `Puts.bind` appends the texts of two steps, and every
writer below has one lemma that follows its equations.
-/

namespace Telemetry.Template

open Telemetry.Random

/-! ## the text that a computation writes -/

/-- the computation takes the stream `s` to `s'` and writes a text: the whole of it into a sink with
enough room, and otherwise as much as there is room for -/
structure Puts {α : Type} (m : Writing α) (s : Stream) (a : α) (text : String) (s' : Stream) :
    Prop where
  whole : ∀ sink : Sink, (sink.write text.toUTF8).2 = true →
    (m.run.run sink).run s = ((.ok a, (sink.write text.toUTF8).1), s')
  cut : ∀ sink : Sink, (sink.write text.toUTF8).2 = false →
    ∃ s'', (m.run.run sink).run s = ((.error .full, (sink.write text.toUTF8).1), s'')

section
variable {α β : Type} {m : Writing α} {k : α → Writing β} {s s' s'' : Stream} {a : α} {b : β}
  {t u : String}

theorem run_bind_of_ok {sink sink' : Sink} (h : (m.run.run sink).run s = ((.ok a, sink'), s')) :
    ((m >>= k).run.run sink).run s = ((k a).run.run sink').run s' := by
  rw [ExceptT.run_bind, StateT.run_bind, StateT.run_bind, h]
  rfl

theorem run_bind_of_error {sink sink' : Sink} {e : Stop}
    (h : (m.run.run sink).run s = ((.error e, sink'), s')) :
    ((m >>= k).run.run sink).run s = ((.error e, sink'), s') := by
  rw [ExceptT.run_bind, StateT.run_bind, StateT.run_bind, h]
  rfl

/-- a computation that leaves every sink alone puts the empty text -/
theorem puts_nothing (h : ∀ sink, (m.run.run sink).run s = ((.ok a, sink), s')) :
    Puts m s a "" s' where
  whole := by
    intro sink _
    rw [String.toUTF8_eq_toByteArray, String.toByteArray_empty, Sink.write_empty]
    exact h sink
  cut := by
    intro sink hfull
    rw [String.toUTF8_eq_toByteArray, String.toByteArray_empty, Sink.write_empty] at hfull
    exact absurd hfull Bool.noConfusion

/-- the texts of two steps come one after the other -/
theorem Puts.bind (h : Puts m s a t s') (hk : Puts (k a) s' b u s'') :
    Puts (m >>= k) s b (t ++ u) s'' where
  whole := by
    intro sink hfit
    rw [String.toUTF8_eq_toByteArray, String.toByteArray_append] at hfit ⊢
    -- both texts fit only if the first one does
    cases hfirst : (sink.write t.toByteArray).2 with
    | false =>
      rw [Sink.write_append_of_cut hfirst, hfirst] at hfit
      exact absurd hfit Bool.noConfusion
    | true =>
      rw [Sink.write_append hfirst] at hfit ⊢
      rw [run_bind_of_ok (h.whole sink hfirst)]
      exact hk.whole _ hfit
  cut := by
    intro sink hfull
    rw [String.toUTF8_eq_toByteArray, String.toByteArray_append] at hfull ⊢
    -- the sink is full in the first step, which ends the computation, or in the second
    cases hfirst : (sink.write t.toByteArray).2 with
    | false =>
      obtain ⟨s₁, hrun⟩ := h.cut sink hfirst
      rw [Sink.write_append_of_cut hfirst]
      exact ⟨s₁, run_bind_of_error hrun⟩
    | true =>
      rw [Sink.write_append hfirst] at hfull ⊢
      rw [run_bind_of_ok (h.whole sink hfirst)]
      exact hk.cut _ hfull

theorem put_run (text : String) (sink : Sink) (s : Stream) :
    ((put text).run.run sink).run s
      = ((if (sink.write text.toUTF8).2 then .ok () else .error .full,
        (sink.write text.toUTF8).1), s) := by
  show (((if (sink.write text.toUTF8).2 then pure () else throw .full : Writing Unit)).run.run
    (sink.write text.toUTF8).1).run s = _
  cases (sink.write text.toUTF8).2 <;> rfl

theorem puts_put (text : String) (s : Stream) : Puts (put text) s () text s where
  whole := by
    intro sink hfit
    rw [put_run, hfit]
    rfl
  cut := by
    intro sink hfull
    refine ⟨s, ?_⟩
    rw [put_run, hfull]
    rfl

end

/-! ## bounds -/

/-- the time of a bound -/
def Bound.time (window : Window) (now : Int64) : Bound → Int64
  | .start | .startNanos => window.start
  | .stop | .stopNanos => window.stop
  | .now | .nowNanos => now

/-- the bounds that are shown as numbers -/
def Bound.isNumber (b : Bound) : Bool := b == .startNanos || b == .stopNanos || b == .nowNanos

/-- the text of a bound: its time as a decimal number, or as an instant -/
def Bound.shown (window : Window) (now : Int64) (b : Bound) : String :=
  if b.isNumber then toString (b.time window now).toInt
  else (Instant.ofNanos (b.time window now)).rfc3339

theorem ofList_signed (i : Int) : String.ofList (Decimal.signed i) = toString i := by
  unfold Decimal.signed
  cases i with
  | ofNat n =>
    rw [if_neg (by simp)]
    rfl
  | negSucc n =>
    rw [if_pos (Int.negSucc_lt_zero n)]
    show String.ofList ('-' :: Decimal.digits (n + 1)) = "-" ++ String.ofList (Decimal.digits (n + 1))
    rw [String.ofList_cons]
    rfl

theorem Source.boundText_eq (src : Source) (b : Bound) :
    src.boundText b = b.shown ⟨src.start, src.stop⟩ src.now := by
  cases b with
  | start | stop | now => rfl
  | startNanos | stopNanos | nowNanos => exact ofList_signed _

/-! ## segments -/

/-- a segment as the reader makes it: a bound stands once, and a tag is the first with its key -/
inductive Sound (keys : List String) : Segment → Prop where
  | literal (text : String) : Sound keys (.literal text)
  | bound (b : Bound) : Sound keys (.placeholder (.bound b) 1)
  | tag {key n : Nat} {name : List Char} (hkey : FirstKey keys name key) (hn : 0 < n) :
    Sound keys (.placeholder (.tag key) n)

theorem sound_of_placed {keys : List String} {times : Nat} {body : List Char} {seg : Segment}
    (htimes : 0 < times) (h : Placed keys times body seg) : Sound keys seg := by
  cases h with
  | bound b => exact .bound b
  | tag hbody hname hfree hkey =>
    refine .tag hkey ?_
    cases hbody with
    | plain h => exact htimes
    | counted h hn =>
      obtain ⟨digits, -, -, -, -, hpos, -⟩ := hn
      exact hpos

theorem sound_of_mem_literal {keys : List String} {cs : List Char} {seg : Segment}
    (h : seg ∈ literal cs) : Sound keys seg := by
  unfold literal at h
  split at h
  · exact absurd h List.not_mem_nil
  · rw [List.mem_singleton.1 h]
    exact .literal _

theorem sound_of_readSegments {source : String} {keys : List String} {times : Nat}
    (htimes : 0 < times) {cs : List Char} {segments : List Segment}
    (h : readSegments source keys times cs = .ok segments) : ∀ seg ∈ segments, Sound keys seg := by
  -- by the length of the text, since the reader goes on behind the first placeholder
  induction hlen : cs.length using Nat.strong_induction_on generalizing cs segments with
  | _ n ih =>
    rw [readSegments] at h
    split at h
    · obtain rfl := Except.ok.inj h
      exact fun seg hseg => sound_of_mem_literal hseg
    rename_i before inner hopen
    split at h
    · exact absurd h (by simp)
    rename_i body after hclose
    split at h
    · exact absurd h (by simp)
    rename_i segment hsegment
    split at h
    · exact absurd h (by simp)
    rename_i rest hrest
    obtain rfl := Except.ok.inj h
    have hshort : after.length < n := by
      rw [← hlen]
      exact Nat.lt_trans (Text.cutPair?_length hclose) (Text.cutPair?_length hopen)
    intro seg hseg
    rcases List.mem_append.1 hseg with hseg | hseg
    · exact sound_of_mem_literal hseg
    rcases List.mem_cons.1 hseg with rfl | hseg
    · exact sound_of_placed htimes (readPlaceholder_ok_iff.1 hsegment)
    · exact ih after.length hshort hrest rfl seg hseg

theorem sound_of_parse {source : String} {keys : List String} {times : Nat} {t : Template}
    (h : parse source keys times = .ok t) : ∀ seg ∈ t.segments, Sound keys seg := by
  unfold parse at h
  split at h
  · exact absurd h (by simp)
  rename_i htimes
  cases hread : readSegments source keys times source.toList with
  | error e =>
    rw [hread] at h
    exact absurd h (by simp [Except.map])
  | ok segments =>
    rw [hread] at h
    obtain rfl := Except.ok.inj h
    exact sound_of_readSegments (Nat.pos_of_ne_zero htimes) hread

/-- the draws that a segment takes: one for each value of a repeated tag -/
def Segment.draws : Segment → Nat
  | .literal _ => 0
  | .placeholder _ times => if 1 < times then times else 0

/-- the text of a segment, when the primary entity is drawn.  A tag that stands once takes its value
from there, and a repeated one takes each from some entity. -/
inductive Shows (entities : List Entity) (primary : Entity) (keys : List String)
    (bound : Bound → String) : Segment → String → Prop where
  | literal (text : String) : Shows entities primary keys bound (.literal text) text
  | bound (b : Bound) : Shows entities primary keys bound (.placeholder (.bound b) 1) (bound b)
  | single {key : Nat} {name value : String} (hkey : keys[key]? = some name)
    (hvalue : primary.tag? name = some value) :
    Shows entities primary keys bound (.placeholder (.tag key) 1) value
  | repeated {key times : Nat} {name : String} {values : List String}
    (hkey : keys[key]? = some name) (htimes : 1 < times) (hlength : values.length = times)
    (hvalues : ∀ value ∈ values, ∃ e ∈ entities, e.tag? name = some value) :
    Shows entities primary keys bound (.placeholder (.tag key) times) ("','".intercalate values)

theorem Shows.value_of_single {entities : List Entity} {primary : Entity} {keys : List String}
    {bound : Bound → String} {key : Nat} {text : String}
    (h : Shows entities primary keys bound (.placeholder (.tag key) 1) text) :
    ∃ name, keys[key]? = some name ∧ primary.tag? name = some text := by
  cases h with
  | single hkey hvalue => exact ⟨_, hkey, hvalue⟩
  | repeated hkey htimes => exact absurd htimes (Nat.lt_irrefl 1)

/-! ## sources of tags -/

/-- the values of a source are the tags of some entities, by the places of their keys, and whatever
is drawn is one of these entities -/
structure Source.Holds (src : Source) (entities : List Entity) (keys : List String) : Prop where
  drawn : ∀ d, (reduce d src.drawable).toNat < entities.length
  value : ∀ {i : Nat} {e : Entity} {key : Nat} {name : List Char}, entities[i]? = some e →
    FirstKey keys name key →
    ∃ v, e.tag? (String.ofList name) = some v ∧ src.value? i key = some v

/-- the tag at the place of the first equal key is the one that is looked up -/
theorem tag?_of_firstKey {e : Entity} {name : List Char} {key : Nat}
    (h : FirstKey e.tagKeys name key) :
    ∃ t, e.tags[key]? = some t ∧ e.tag? (String.ofList name) = some t.value := by
  obtain ⟨hkey, hbefore⟩ := h
  rw [Entity.tagKeys, List.getElem?_map] at hkey
  obtain ⟨t, ht, hname⟩ := Option.map_eq_some_iff.1 hkey
  obtain ⟨hlt, hget⟩ := List.getElem?_eq_some_iff.1 ht
  refine ⟨t, ht, ?_⟩
  have hfind : e.tags.find? (·.key == String.ofList name) = some t := by
    rw [List.find?_eq_some_iff_getElem]
    refine ⟨beq_iff_eq.2 hname, key, hlt, hget, ?_⟩
    intro i hi
    have hne := hbefore i hi
    rw [Entity.tagKeys, List.getElem?_map, List.getElem?_eq_getElem (Nat.lt_trans hi hlt),
      Option.map_some] at hne
    rw [Bool.not_eq_true', beq_eq_false_iff_ne]
    exact fun heq => hne (congrArg some heq)
  rw [Entity.tag?, hfind, Option.map_some]

theorem intercalate_cons (sep v : String) (vs : List String) :
    sep.intercalate (v :: vs) = v ++ String.join (vs.map (sep ++ ·)) := by
  induction vs generalizing v with
  | nil => rw [String.intercalate_singleton, List.map_nil, String.join_nil, String.append_empty]
  | cons w ws ih =>
    rw [String.intercalate_cons_cons, ih, List.map_cons, String.join_cons, String.append_assoc,
      String.append_assoc]

theorem putMore_succ (src : Source) (key n : Nat) :
    putMore src key (n + 1) = put separator >>= fun _ =>
      (pick src >>= putValue src key) >>= fun _ => putMore src key n := by
  rw [bind_assoc]
  rfl

theorem putSegment_repeated (src : Source) (primary : UInt32) (key n : Nat) :
    putSegment src primary (.placeholder (.tag key) (n + 2))
      = (pick src >>= putValue src key) >>= fun _ => putMore src key (n + 1) := by
  rw [bind_assoc]
  rfl

namespace Source.Holds
variable {src : Source} {entities : List Entity} {keys : List String} {primary : UInt32}
  {e : Entity} {key : Nat} {name : List Char}

theorem puts_pick (h : src.Holds entities keys) (s : Stream) :
    ∃ i e, entities[i.toNat]? = some e ∧ Puts (pick src) s i "" (s.after 1) := by
  have hlt := h.drawn (scramble (step s.word) >>> 32).toUInt32
  exact ⟨_, _, List.getElem?_eq_getElem hlt, puts_nothing fun _ => rfl⟩

theorem puts_value (h : src.Holds entities keys) (he : entities[primary.toNat]? = some e)
    (hkey : FirstKey keys name key) (s : Stream) :
    ∃ v, e.tag? (String.ofList name) = some v ∧ Puts (putValue src key primary) s () v s := by
  obtain ⟨v, htag, hvalue⟩ := h.value he hkey
  refine ⟨v, htag, ?_⟩
  unfold putValue
  rw [hvalue]
  exact puts_put v s

/-- an entity is drawn, and its value is written -/
theorem puts_drawn (h : src.Holds entities keys) (hkey : FirstKey keys name key) (s : Stream) :
    ∃ v, (∃ e ∈ entities, e.tag? (String.ofList name) = some v) ∧
      Puts (pick src >>= putValue src key) s () v (s.after 1) := by
  obtain ⟨i, e, he, hpick⟩ := h.puts_pick s
  obtain ⟨v, htag, hvalue⟩ := h.puts_value he hkey (s.after 1)
  have hdrawn := hpick.bind hvalue
  rw [String.empty_append] at hdrawn
  exact ⟨v, ⟨e, List.mem_of_getElem? he, htag⟩, hdrawn⟩

theorem puts_more (h : src.Holds entities keys) (hkey : FirstKey keys name key) (n : Nat)
    (s : Stream) :
    ∃ values : List String, values.length = n ∧
      (∀ v ∈ values, ∃ e ∈ entities, e.tag? (String.ofList name) = some v) ∧
      Puts (putMore src key n) s () (String.join (values.map (separator ++ ·))) (s.after n) := by
  induction n generalizing s with
  | zero => exact ⟨[], rfl, fun v hv => absurd hv List.not_mem_nil, puts_nothing fun _ => rfl⟩
  | succ n ih =>
    obtain ⟨v, hv, hdrawn⟩ := h.puts_drawn hkey s
    obtain ⟨values, hlength, hvalues, hmore⟩ := ih (s.after 1)
    have hlength : (v :: values).length = n + 1 := by rw [List.length_cons, hlength]
    refine ⟨v :: values, hlength, List.forall_mem_cons.2 ⟨hv, hvalues⟩, ?_⟩
    rw [putMore_succ, List.map_cons, String.join_cons, Nat.add_comm n 1, ← Stream.after_after,
      String.append_assoc]
    exact (puts_put separator s).bind (hdrawn.bind hmore)

/-- the text of a segment, for an instance with this primary entity -/
theorem puts_segment (h : src.Holds entities keys) (he : entities[primary.toNat]? = some e)
    {seg : Segment} (hseg : Sound keys seg) (s : Stream) :
    ∃ text, Shows entities e keys src.boundText seg text ∧
      Puts (putSegment src primary seg) s () text (s.after seg.draws) := by
  cases hseg with
  | literal text => exact ⟨text, .literal text, puts_put text s⟩
  | bound b => exact ⟨src.boundText b, .bound b, puts_put _ s⟩
  | @tag key times name hkey hn =>
    -- a tag that stands once takes the primary entity, and only a repeated one draws
    match times, hn with
    | 1, _ =>
      obtain ⟨v, htag, hvalue⟩ := h.puts_value he hkey s
      exact ⟨v, .single hkey.1 htag, hvalue⟩
    | n + 2, _ =>
      obtain ⟨v, hv, hdrawn⟩ := h.puts_drawn hkey s
      obtain ⟨values, hlength, hvalues, hmore⟩ := h.puts_more hkey (n + 1) (s.after 1)
      have hlength : (v :: values).length = n + 2 := by rw [List.length_cons, hlength]
      have htimes : 1 < n + 2 := by omega
      refine ⟨_, .repeated hkey.1 htimes hlength (List.forall_mem_cons.2 ⟨hv, hvalues⟩), ?_⟩
      have hdraws : (Segment.placeholder (.tag key) (n + 2)).draws = 1 + (n + 1) := by
        rw [Segment.draws, if_pos htimes]
        omega
      rw [putSegment_repeated, intercalate_cons, hdraws, ← Stream.after_after]
      exact hdrawn.bind hmore

theorem puts_segments (h : src.Holds entities keys) (he : entities[primary.toNat]? = some e)
    {segments : List Segment} (hsound : ∀ seg ∈ segments, Sound keys seg) (s : Stream) :
    ∃ texts, List.Forall₂ (Shows entities e keys src.boundText) segments texts ∧
      Puts (putSegments src primary segments) s () (String.join texts)
        (s.after (segments.map Segment.draws).sum) := by
  induction segments generalizing s with
  | nil => exact ⟨[], .nil, puts_nothing fun _ => rfl⟩
  | cons seg rest ih =>
    obtain ⟨text, hshows, hput⟩ := h.puts_segment he (hsound seg List.mem_cons_self) s
    obtain ⟨texts, hall, hrest⟩ :=
      ih (fun seg' hseg' => hsound seg' (List.mem_cons_of_mem seg hseg')) (s.after seg.draws)
    refine ⟨text :: texts, .cons hshows hall, ?_⟩
    rw [List.map_cons, List.sum_cons, String.join_cons, ← Stream.after_after]
    exact hput.bind hrest

/-- **Every template that was read with the keys of a source has a text there**, made of the texts of
its segments, and takes one draw more than its repeated tags have values. -/
theorem puts_all (h : src.Holds entities keys) {t : Template}
    (hsound : ∀ seg ∈ t.segments, Sound keys seg) (s : Stream) :
    ∃ e ∈ entities, ∃ texts,
      List.Forall₂ (Shows entities e keys src.boundText) t.segments texts ∧
        Puts (t.putAll src) s () (String.join texts)
          (s.after (1 + (t.segments.map Segment.draws).sum)) := by
  obtain ⟨primary, e, he, hpick⟩ := h.puts_pick s
  obtain ⟨texts, hall, hsegments⟩ := h.puts_segments he hsound (s.after 1)
  refine ⟨e, List.mem_of_getElem? he, texts, hall, ?_⟩
  rw [← String.empty_append (s := String.join texts), ← Stream.after_after]
  exact hpick.bind hsegments

end Source.Holds

end Telemetry.Template
