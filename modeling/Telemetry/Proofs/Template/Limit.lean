import Telemetry.Proofs.Template.Instance

/-!
# Instances in a sink with a limit

An instance that does not fit is cut where the sink is full, and that is all that a full sink does:
what it has taken are the first bytes of the text that the same source and the same draws make.

* `Source.Complete src keys`  a source with an entity, and with a value of every key for each;
* `Source.listing`            the values of a source as the tags of entities;
* `Puts.render`               the text that a template puts is the one that is rendered;
* `write_limited`             the instance of a template in a sink that takes `limit` bytes.
-/

namespace Telemetry

namespace Sink

/-- a new sink has the first bytes of what is written to it -/
theorem write_new (limit : Nat) (chunk : ByteArray) :
    (⟨some limit, .empty⟩ : Sink).write chunk
      = (⟨some limit, chunk.extract 0 (min limit chunk.size)⟩, decide (chunk.size ≤ limit)) := by
  have hroom : (⟨some limit, .empty⟩ : Sink).room chunk.size = min limit chunk.size :=
    Nat.min_comm _ _
  rw [write_eq, hroom, ByteArray.empty_append]
  congr 1
  simp only [decide_eq_decide]
  omega

theorem text_toUTF8 (limit : Option Nat) (text : String) :
    (⟨limit, text.toUTF8⟩ : Sink).text = text := by
  have hread : String.fromUTF8? text.toUTF8 = some text := dif_pos text.isValidUTF8
  unfold Sink.text
  rw [hread]

end Sink

namespace Template

open Telemetry.Random

/-! ## sources -/

/-- a source with an entity at least, and with a value of every tag key for each of them -/
structure Source.Complete (src : Source) (keys : List String) : Prop where
  count_pos : 0 < src.count.toNat
  value : ∀ i < src.count.toNat, ∀ key < keys.length, ∃ v, src.value? i key = some v

/-- entity number `i` of a source, with its values as tags -/
def Source.listed (src : Source) (keys : List String) (i : Nat) : Entity where
  index := i.toUInt64
  tags := keys.mapIdx fun key name => ⟨name, (src.value? i key).getD ""⟩
  generators := []

/-- the entities of a source -/
def Source.listing (src : Source) (keys : List String) : List Entity :=
  (List.range src.count.toNat).map (src.listed keys)

section
variable {src : Source} {keys : List String}

theorem Source.length_listing : (src.listing keys).length = src.count.toNat := by
  simp [listing]

theorem Source.getElem?_tags_listed (i key : Nat) : (src.listed keys i).tags[key]?
    = (keys[key]?).map fun name => ⟨name, (src.value? i key).getD ""⟩ := by
  simp [listed]

theorem Source.tagKeys_listed (i : Nat) : (src.listed keys i).tagKeys = keys := by
  apply List.ext_getElem?
  intro key
  rw [Entity.tagKeys, List.getElem?_map, getElem?_tags_listed]
  cases keys[key]? <;> rfl

theorem Source.Complete.holds (h : src.Complete keys) : src.Holds (src.listing keys) keys where
  drawn := by
    intro d
    have hlt := reduce_lt_of_pos h.count_pos d
    rw [length_listing]
    simpa [drawable] using hlt
  value := by
    intro i e key name he hkey
    have hi : i < src.count.toNat := by
      have hlt := (List.getElem?_eq_some_iff.1 he).1
      rwa [length_listing] at hlt
    have hlisted : src.listed keys i = e := by
      simpa [listing, hi] using he
    obtain ⟨v, hv⟩ := h.value i hi key (List.getElem?_eq_some_iff.1 hkey.1).1
    have htag : (src.listed keys i).tags[key]? = some ⟨String.ofList name, v⟩ := by
      rw [getElem?_tags_listed, hkey.1, hv]
      rfl
    have hkey' : FirstKey (src.listed keys i).tagKeys name key := by
      rwa [tagKeys_listed]
    obtain ⟨t, ht, hvalue⟩ := tag?_of_firstKey hkey'
    rw [htag] at ht
    obtain rfl := Option.some.inj ht
    rw [hlisted] at hvalue
    exact ⟨v, hvalue, hv⟩

end

/-! ## the instance -/

section
variable {t : Template} {src : Source} {s s' : Stream} {text : String}

/-- the text that a template puts is the one that is rendered -/
theorem Puts.render (h : Puts (t.putAll src) s () text s') :
    (t.render src).run s = (some text, s') := by
  have hfit : (({} : Sink).write text.toUTF8).2 = true := (Sink.write_whole _ _).2 rfl
  have hwrite : (t.write src {}).run s = ((.ok (), ⟨none, text.toUTF8⟩), s') := by
    have hrun := h.whole {} hfit
    rwa [Sink.write_eq, Sink.room_unlimited, ByteArray.extract_zero_size, ByteArray.empty_append]
      at hrun
  unfold Template.render
  rw [StateT.run_bind, hwrite]
  show ((some (⟨none, text.toUTF8⟩ : Sink).text, s') : Option String × Stream) = _
  rw [Sink.text_toUTF8]

/-- in a new sink with a limit: the first bytes of the text, whole exactly where it fits -/
theorem Puts.limited (h : Puts (t.putAll src) s () text s') (limit : Nat) :
    ∃ done s₁, (t.write src ⟨some limit, .empty⟩).run s
        = ((done, ⟨some limit, text.toUTF8.extract 0 (min limit text.toUTF8.size)⟩), s₁) ∧
      ((done = .ok () ∧ s₁ = s' ∧ text.toUTF8.size ≤ limit) ∨
        (done = .error .full ∧ limit < text.toUTF8.size)) := by
  have hwrite := Sink.write_new limit text.toUTF8
  by_cases hfit : text.toUTF8.size ≤ limit
  · rw [decide_eq_true hfit] at hwrite
    have hrun := h.whole ⟨some limit, .empty⟩ (by rw [hwrite])
    rw [hwrite] at hrun
    exact ⟨_, _, hrun, .inl ⟨rfl, rfl, hfit⟩⟩
  · rw [decide_eq_false hfit] at hwrite
    obtain ⟨s₁, hrun⟩ := h.cut ⟨some limit, .empty⟩ (by rw [hwrite])
    rw [hwrite] at hrun
    exact ⟨_, s₁, hrun, .inr ⟨rfl, Nat.lt_of_not_le hfit⟩⟩

end

/-- **An instance in a sink that takes `limit` bytes.**  A template has a text in every source that is
complete for its keys.  The sink gets the first bytes of it, as many as it takes, and writing goes well
exactly where these are all; then the same draws have been taken. -/
theorem write_limited {source : String} {keys : List String} {times : Nat} {t : Template}
    (hparse : parse source keys times = .ok t) {src : Source} (hsrc : src.Complete keys)
    (s : Stream) :
    ∃ text s', (t.render src).run s = (some text, s') ∧ ∀ limit,
      ∃ done sink s₁, (t.write src ⟨some limit, .empty⟩).run s = ((done, sink), s₁) ∧
        sink.bytes = text.toUTF8.extract 0 (min limit text.toUTF8.size) ∧
        (done = .ok () ↔ text.toUTF8.size ≤ limit) ∧
        (text.toUTF8.size ≤ limit → s₁ = s') ∧
        (limit < text.toUTF8.size → done = .error .full) := by
  obtain ⟨-, -, texts, -, hputs⟩ := hsrc.holds.puts_all (sound_of_parse hparse) s
  refine ⟨String.join texts, _, hputs.render, ?_⟩
  intro limit
  obtain ⟨done, s₁, hrun, hdone⟩ := hputs.limited limit
  refine ⟨done, _, s₁, hrun, rfl, ?_⟩
  rcases hdone with ⟨rfl, rfl, hfit⟩ | ⟨rfl, hover⟩
  · exact ⟨iff_of_true rfl hfit, fun _ => rfl, fun hover => absurd hfit (Nat.not_le_of_lt hover)⟩
  · refine ⟨iff_of_false nofun (Nat.not_le_of_lt hover), ?_, fun _ => rfl⟩
    exact fun hfit => absurd hfit (Nat.not_le_of_lt hover)

/-- two entities with one tag -/
def twoTrees : Source where
  count := 2
  value? := fun i key => if i < 2 ∧ key = 0 then some (if i = 0 then "ash" else "oak") else none
  start := 0
  stop := 10
  now := 5

theorem complete_twoTrees : twoTrees.Complete ["tree"] where
  count_pos := by decide
  value := by
    intro i hi key hkey
    have hi : i < 2 := hi
    have hkey : key = 0 := Nat.lt_one_iff.1 hkey
    exact ⟨_, if_pos ⟨hi, hkey⟩⟩

/-- three trees, and a sink that is full after two bytes -/
theorem write_limited_two_trees : twoTrees.Complete ["tree"] ∧
    ∃ t, parse "\x7b\x7btree\x7d\x7d,\x7b\x7btree:2\x7d\x7d" ["tree"] 1 = .ok t ∧
      ∃ text s', (t.render twoTrees).run ⟨7⟩ = (some text, s') ∧
        ∃ done sink s₁, (t.write twoTrees ⟨some 2, .empty⟩).run ⟨7⟩ = ((done, sink), s₁) ∧
          sink.bytes = text.toUTF8.extract 0 (min 2 text.toUTF8.size) ∧
          (done = .ok () ↔ text.toUTF8.size ≤ 2) := by
  have hparse : parse "\x7b\x7btree\x7d\x7d,\x7b\x7btree:2\x7d\x7d" ["tree"] 1
      = .ok ⟨"\x7b\x7btree\x7d\x7d,\x7b\x7btree:2\x7d\x7d",
        [.placeholder (.tag 0) 1, .literal ",", .placeholder (.tag 0) 2]⟩ := by
    decide +kernel
  obtain ⟨text, s', hrender, hwrite⟩ := write_limited hparse complete_twoTrees ⟨7⟩
  obtain ⟨done, sink, s₁, hrun, hbytes, hdone, -⟩ := hwrite 2
  exact ⟨complete_twoTrees, _, hparse, text, s', hrender, done, sink, s₁, hrun, hbytes, hdone⟩

end Template

end Telemetry
