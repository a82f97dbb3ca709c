import Telemetry.Proofs.Fleet.Stored
import Telemetry.Proofs.Template.Instance

/-!
# Queries of a fleet

The entities of an accepted fleet have one list of tag keys, and no operation touches a tag.  So a
template that was read with these keys finds all its values, in every state of the fleet.

* `holds_source`  a fleet is a source of the tags of its entities;
* `write_tells`   what an instance of a template says, whatever was done to the fleet before.
-/

namespace Telemetry

open Telemetry.Random Telemetry.Template

namespace Fleet

section
variable {entities : List Entity} {window : Window} {interval : Duration} {f g : Fleet}

theorem holds_source (hacc : ofEntities entities window interval = .ok f) (ha : Alike f g) :
    g.source.Holds entities f.tagKeys := by
  obtain ⟨first, rest, step, span, hcons, -, hfits, -, -, -, -, hf⟩ := ofEntities_eq_ok hacc
  have hentities : f.entities = entities.toArray := by rw [hf]
  have hkeys : ∀ e ∈ entities, e.tagKeys = f.tagKeys := by
    intro e he
    rw [hf]
    exact (of_fits (hfits e he)).2
  have hsize : g.entities.size = entities.length := by
    rw [ha.size, hentities, List.size_toArray]
  refine ⟨?_, ?_⟩
  · intro d
    show (reduce d g.entities.size.toUInt64.toUInt32).toNat < entities.length
    rw [hsize]
    exact reduce_lt_of_pos (by rw [hcons]; exact Nat.succ_pos rest.length) d
  · intro i e key name he hkey
    rw [← hkeys e (List.mem_of_getElem? he)] at hkey
    obtain ⟨t, ht, htag⟩ := tag?_of_firstKey hkey
    have he : f.entities[i]? = some e := by rw [hentities, List.getElem?_toArray, he]
    obtain ⟨e', he', hlayout⟩ := ha.entity he
    refine ⟨t.value, htag, ?_⟩
    show (g.entities[i]? >>= fun e => e.tags[key]? >>= fun t => pure t.value) = _
    rw [he']
    show (e'.tags[key]? >>= fun t => pure t.value) = _
    rw [Entity.tags_of_layout hlayout, ht]
    rfl

theorem window_of_ofEntities (hacc : ofEntities entities window interval = .ok f) :
    f.window = window := by
  obtain ⟨first, rest, step, span, -, -, -, -, -, -, -, rfl⟩ := ofEntities_eq_ok hacc
  rfl

/-- **What an instance says.**  After any operations, a template that was read with the tag keys of a
fleet writes all its text to a sink without a limit: one entity of the fleet has the values of all
tags that stand once.  One draw is taken for this entity, and one for each value of a repeated tag. -/
theorem write_tells (hacc : ofEntities entities window interval = .ok f) {text : String}
    {times : Nat} {t : Template} (hparse : parse text f.tagKeys times = .ok t) (ops : List Op)
    (s : Stream) (before : ByteArray) :
    ∃ g s', (f.performAll ops).run s = (g, s') ∧ ∀ s₁ : Stream,
      ∃ primary ∈ entities, ∃ texts,
        List.Forall₂ (Shows entities primary f.tagKeys (Bound.shown window g.now)) t.segments texts ∧
        (t.write g.source ⟨none, before⟩).run s₁
          = ((.ok (), ⟨none, before ++ (String.join texts).toUTF8⟩),
            s₁.after (1 + (t.segments.map Segment.draws).sum)) := by
  obtain ⟨halike, -⟩ := performAll_keeps f ops s
  generalize (f.performAll ops).run s = reached at halike
  obtain ⟨g, s'⟩ := reached
  refine ⟨g, s', rfl, ?_⟩
  intro s₁
  have hholds : g.source.Holds entities f.tagKeys := holds_source hacc halike
  obtain ⟨primary, hprimary, texts, hshows, hputs⟩ := hholds.puts_all (sound_of_parse hparse) s₁
  have hwindow : g.window = window := by rw [halike.window, window_of_ofEntities hacc]
  have hbounds : g.source.boundText = Bound.shown window g.now := by
    funext b
    rw [Source.boundText_eq, ← hwindow]
    rfl
  rw [hbounds] at hshows
  refine ⟨primary, hprimary, texts, hshows, ?_⟩
  have hfit : ((⟨none, before⟩ : Sink).write (String.join texts).toUTF8).2 = true :=
    (Sink.write_whole _ _).2 rfl
  rw [write, hputs.whole _ hfit, Sink.write_eq, Sink.room_unlimited, ByteArray.extract_zero_size]

/-- a template of two hosts: its first and last tag come from one host, and two more draws are taken
for the tag between them -/
theorem write_tells_two_hosts :
    ∃ f t, ofEntities twoHosts ⟨0, 3000000000⟩ (.ofSeconds 1) = .ok f ∧
      parse "\x7b\x7bhostname\x7d\x7d,\x7b\x7bhostname:2\x7d\x7d,\x7b\x7bhostname\x7d\x7d"
        f.tagKeys 1 = .ok t ∧
      ∃ g s', (f.performAll [.next {}, .written 2]).run ⟨1⟩ = (g, s') ∧
        ∃ primary ∈ twoHosts, ∃ v, primary.tag? "hostname" = some v ∧
          ∃ more, (t.write g.source ⟨none, .empty⟩).run ⟨7⟩
            = ((.ok (), ⟨none, .empty ++ (String.join [v, ",", more, ",", v]).toUTF8⟩),
              (⟨7⟩ : Stream).after 3) := by
  have hacc : ∃ f, ofEntities twoHosts ⟨0, 3000000000⟩ (.ofSeconds 1) = .ok f ∧
      f.tagKeys = ["hostname"] := ⟨_, rfl, rfl⟩
  obtain ⟨f, hacc, hkeys⟩ := hacc
  have hparse : parse
      "\x7b\x7bhostname\x7d\x7d,\x7b\x7bhostname:2\x7d\x7d,\x7b\x7bhostname\x7d\x7d" f.tagKeys 1
      = .ok ⟨"\x7b\x7bhostname\x7d\x7d,\x7b\x7bhostname:2\x7d\x7d,\x7b\x7bhostname\x7d\x7d",
        [.placeholder (.tag 0) 1, .literal ",", .placeholder (.tag 0) 2, .literal ",",
          .placeholder (.tag 0) 1]⟩ := by
    rw [hkeys]
    decide +kernel
  obtain ⟨g, s', hrun, hwrite⟩ :=
    write_tells hacc hparse [.next {}, .written 2] ⟨1⟩ .empty
  obtain ⟨primary, hprimary, texts, hshows, hwrite⟩ := hwrite ⟨7⟩
  refine ⟨f, _, hacc, hparse, g, s', hrun, primary, hprimary, ?_⟩
  rw [hkeys] at hshows
  -- the texts, segment by segment
  cases hshows with | cons hfirst hshows =>
  cases hshows with | cons hcomma hshows =>
  cases hshows with | @cons _ more _ _ _ hshows =>
  cases hshows with | cons hcomma' hshows =>
  cases hshows with | cons hlast hshows =>
  cases hshows
  cases hcomma
  cases hcomma'
  obtain ⟨name, hname, hvalue⟩ := hfirst.value_of_single
  obtain ⟨name', hname', hvalue'⟩ := hlast.value_of_single
  obtain rfl := Option.some.inj hname
  obtain rfl := Option.some.inj hname'
  rw [hvalue, Option.some.injEq] at hvalue'
  subst hvalue'
  exact ⟨_, hvalue, more, hwrite⟩

end

end Fleet

end Telemetry
