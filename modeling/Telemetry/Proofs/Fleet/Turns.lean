import Mathlib.Data.List.Rotate
import Mathlib.Data.List.TakeWhile
import Telemetry.Proofs.Fleet.Reply
import Telemetry.Proofs.Fleet.Query

/-!
# Whose turn it is

Which template a query is an instance of, read off the operations before it.

* `installed keys ops`  the templates in place after some operations: those of the last installation
                        that was not refused;
* `asked keys ops`      the number of queries that were asked while there were templates in place,
                        answered or not;
* `Query.Tells`         a query that is an instance of a template, under a number;
* `Turned f ops g`      the invariant: `g` is a state of `f` with just these templates and this number;
* `Turned.respond`      one operation keeps it;
* `Turned.query`        query number `k` is an instance of template number `(k - 1) % T` of `T`;
* `Turned.round`        queries in a row go round the templates;
* `respondAll_turns`    what every run of operations comes to.
-/

namespace Telemetry.Fleet

open Telemetry.Random Telemetry.Template

/-! ## the history of templates -/

def Op.isQuery : Op → Bool
  | .query _ => true
  | _ => false

def installed (keys : List String) (ops : List Op) : List Template :=
  ((ops.filterMap (Op.accepted? keys)).getLast?).getD []

def asked (keys : List String) (ops : List Op) : Nat :=
  (ops.dropWhile fun op => (op.accepted? keys).isNone).countP Op.isQuery

section
variable {keys : List String} {ops : List Op} {op : Op} {ts : List Template}

theorem installed_concat (keys : List String) (ops : List Op) (op : Op) :
    installed keys (ops ++ [op]) = (op.accepted? keys).getD (installed keys ops) := by
  rw [installed, List.filterMap_append]
  cases h : op.accepted? keys with
  | none =>
    have hmap : [op].filterMap (Op.accepted? keys) = [] := by simp [h]
    rw [hmap, List.append_nil]
    rfl
  | some ts =>
    have hmap : [op].filterMap (Op.accepted? keys) = [ts] := by simp [h]
    rw [hmap, List.getLast?_concat]
    rfl

theorem ready_installed (h : installed keys ops ≠ []) : Ready keys (installed keys ops) := by
  unfold installed at h ⊢
  cases hlast : (ops.filterMap (Op.accepted? keys)).getLast? with
  | none =>
    rw [hlast] at h
    exact absurd rfl h
  | some ts =>
    obtain ⟨op, -, hop⟩ := List.mem_filterMap.1 (List.mem_of_getLast? hlast)
    exact Op.accepted?_ready hop

/-- there are no templates as long as every installation was refused -/
theorem installed_eq_nil_iff :
    installed keys ops = [] ↔ ∀ op ∈ ops, op.accepted? keys = none := by
  rw [← List.filterMap_eq_nil_iff, installed]
  cases hlast : (ops.filterMap (Op.accepted? keys)).getLast? with
  | none => exact iff_of_true rfl (List.getLast?_eq_none_iff.1 hlast)
  | some ts =>
    obtain ⟨op, -, hop⟩ := List.mem_filterMap.1 (List.mem_of_getLast? hlast)
    refine iff_of_false (Op.accepted?_ready hop).ne_nil fun hnil => ?_
    rw [hnil] at hlast
    cases hlast

theorem dropWhile_nil_iff :
    (ops.dropWhile fun op => (op.accepted? keys).isNone) = [] ↔ installed keys ops = [] := by
  rw [List.dropWhile_eq_nil_iff, installed_eq_nil_iff]
  exact forall₂_congr fun op _ => Option.isNone_iff_eq_none

theorem isQuery_of_accepted? (h : op.accepted? keys = some ts) : op.isQuery = false := by
  cases op with
  | query sink => exact absurd h (by simp [Op.accepted?])
  | _ => rfl

/-- an operation counts if it is a query and there are templates in place -/
theorem asked_concat :
    asked keys (ops ++ [op])
      = asked keys ops + if op.isQuery ∧ installed keys ops ≠ [] then 1 else 0 := by
  rw [asked, List.dropWhile_append, asked]
  cases hdrop : ops.dropWhile fun op => (op.accepted? keys).isNone with
  | nil =>
    rw [List.isEmpty_nil, if_pos rfl, if_neg fun h => h.2 (dropWhile_nil_iff.1 hdrop)]
    -- the operation may bring the first templates, but then it is no query
    cases hop : op.accepted? keys with
    | none => simp [List.dropWhile, hop]
    | some ts => simp [List.dropWhile, hop, isQuery_of_accepted? hop]
  | cons op' rest =>
    have hne : installed keys ops ≠ [] := fun h => by
      rw [dropWhile_nil_iff.2 h] at hdrop
      cases hdrop
    rw [List.isEmpty_cons, if_neg Bool.noConfusion, List.countP_append, List.countP_singleton]
    simp [hne]

/-- operations that install nothing leave the templates in place, and only their queries count -/
theorem history_append {mid : List Op} (hmid : ∀ op ∈ mid, op.accepted? keys = none) :
    installed keys (ops ++ mid) = installed keys ops
      ∧ (installed keys ops ≠ [] → asked keys (ops ++ mid) = asked keys ops + mid.countP Op.isQuery)
      := by
  induction mid using List.reverseRecOn with
  | nil => exact ⟨by rw [List.append_nil], fun _ => by rw [List.append_nil]; rfl⟩
  | append_singleton mid op ih =>
    rw [List.forall_mem_append, List.forall_mem_singleton] at hmid
    obtain ⟨hinstalled, hasked⟩ := ih hmid.1
    rw [← List.append_assoc, installed_concat, hmid.2, hinstalled]
    refine ⟨rfl, fun hne => ?_⟩
    rw [asked_concat, hinstalled, hasked hne, List.countP_append, List.countP_singleton,
      Nat.add_assoc]
    simp [hne]

end

/-! ## one operation -/

/-- a state of a fleet after some operations, as far as queries see it -/
structure Turned (f : Fleet) (ops : List Op) (g : Fleet) : Prop where
  alike : Alike f g
  templates_eq : g.templates = installed f.tagKeys ops
  queries_eq : g.queries = (asked f.tagKeys ops).toUInt64

theorem nextQuery_nil {f : Fleet} (h : f.templates = []) (sink : Sink) :
    f.nextQuery sink = return (.error .noTemplates, sink, f) := by
  unfold nextQuery
  split
  · rfl
  · rename_i hcons
    rw [h] at hcons
    cases hcons

theorem nextQuery_counts {f : Fleet} (h : f.templates ≠ []) (sink : Sink) (s : Stream) :
    ((f.nextQuery sink).run s).1.2.2 = { f with queries := f.queries + 1 } := by
  unfold nextQuery
  split
  · rename_i hnil
    exact absurd hnil h
  · rfl

/-- what an operation does to the templates and to the number of queries -/
theorem respond_turns (f : Fleet) (op : Op) (s : Stream) :
    ((f.respond op).run s).1.2.templates = (op.accepted? f.tagKeys).getD f.templates
      ∧ ((f.respond op).run s).1.2.queries
        = f.queries + if op.isQuery ∧ f.templates ≠ [] then 1 else 0 := by
  have hzero : f.queries = f.queries + 0 := (UInt64.add_zero f.queries).symm
  cases op with
  | next p =>
    show ((f.next p).run s).1.2.2.templates = _ ∧ ((f.next p).run s).1.2.2.queries = _
    rcases next_cases f p s with h | ⟨i, e, e', n, -, -, h⟩ <;> rw [h] <;> exact ⟨rfl, hzero⟩
  | query sink =>
    show ((f.nextQuery sink).run s).1.2.2.templates = _
      ∧ ((f.nextQuery sink).run s).1.2.2.queries = _
    by_cases h : f.templates = []
    · rw [nextQuery_nil h, if_neg fun hquery => hquery.2 h]
      exact ⟨rfl, hzero⟩
    · rw [nextQuery_counts h, if_pos ⟨rfl, h⟩]
      exact ⟨rfl, rfl⟩
  | written count => exact ⟨rfl, hzero⟩
  | install texts times =>
    rw [respond_install]
    rcases verdict_spec f.tagKeys times texts with ⟨ts, hok, haccepted, -⟩ | ⟨e, herror, hnone, -⟩
    · rw [hok, haccepted]
      exact ⟨rfl, hzero⟩
    · rw [herror, hnone]
      exact ⟨rfl, hzero⟩

theorem alike_respond (f : Fleet) (op : Op) (s : Stream) :
    Alike f ((f.respond op).run s).1.2 := by
  have hstep := (perform_keeps f op s).1
  rwa [← respond_run] at hstep

section
variable {entities : List Entity} {window : Window} {interval : Duration} {f g : Fleet}
  {ops : List Op}

theorem turned_of_ofEntities (hacc : ofEntities entities window interval = .ok f) :
    Turned f [] f := by
  obtain ⟨first, rest, step, span, -, -, -, -, -, -, -, rfl⟩ := ofEntities_eq_ok hacc
  exact ⟨Alike.refl _, rfl, rfl⟩

/-- **One operation** keeps the invariant. -/
theorem Turned.respond (h : Turned f ops g) (op : Op) (s : Stream) :
    Turned f (ops ++ [op]) ((g.respond op).run s).1.2 := by
  obtain ⟨htemplates, hqueries⟩ := respond_turns g op s
  rw [h.alike.tagKeys, h.templates_eq] at htemplates
  rw [h.templates_eq, h.queries_eq] at hqueries
  refine ⟨h.alike.trans (alike_respond g op s), ?_, ?_⟩
  · rw [htemplates, installed_concat]
  · rw [hqueries, asked_concat]
    split
    · exact (UInt64.ofNat_add _ 1).symm
    · exact UInt64.add_zero _

theorem Turned.respondAll (h : Turned f ops g) (more : List Op) (s : Stream) :
    Turned f (ops ++ more) ((g.respondAll more).run s).1.2 := by
  induction more using List.reverseRecOn with
  | nil =>
    rw [List.append_nil]
    exact h
  | append_singleton more op ih =>
    rw [← List.append_assoc, respondAll_concat]
    exact ih.respond op _

/-! ## one query -/

/-- a query that is an instance of a template, under a number: it is answered with the number if the
whole text of the instance has gone to the sink -/
def Query.Tells (q : Query) (entities : List Entity) (window : Window) (keys : List String)
    (t : Template) (number : Nat) : Prop :=
  ∃ primary ∈ entities, ∃ texts,
    List.Forall₂ (Shows entities primary keys (Bound.shown window q.now)) t.segments texts ∧
    q.left = (q.given.write (String.join texts).toUTF8).1 ∧
    q.answer = if (q.given.write (String.join texts).toUTF8).2 then .ok number.toUInt64
      else .error (.stopped .full)

theorem respond_query (f : Fleet) (sink : Sink) (s : Stream) :
    (f.respond (.query sink)).run s
      = ((.query ⟨f.now, sink, ((f.nextQuery sink).run s).1.1, ((f.nextQuery sink).run s).1.2.1⟩,
          ((f.nextQuery sink).run s).1.2.2), ((f.nextQuery sink).run s).2) := rfl

/-- without templates a query takes nothing and does not count -/
theorem Turned.query_nil (h : Turned f ops g) (hnil : installed f.tagKeys ops = []) (sink : Sink)
    (s : Stream) :
    (g.respond (.query sink)).run s
      = ((.query ⟨g.now, sink, .error .noTemplates, sink⟩, g), s) := by
  rw [respond_query, nextQuery_nil (h.templates_eq.trans hnil)]
  rfl

theorem toNat_turn {a n : Nat} (ha : a < UInt64.size) (hn : n < UInt64.size) :
    ((a.toUInt64 + 1 - 1) % n.toUInt64).toNat = a % n := by
  rw [UInt64.add_sub_cancel, UInt64.toNat_mod, Word.toNat_toUInt64_of_lt ha,
    Word.toNat_toUInt64_of_lt hn]

theorem nextQuery_turn {f : Fleet} {a : Nat} {t : Template} (ha : a < UInt64.size)
    (hn : f.templates.length < UInt64.size) (hqueries : f.queries = a.toUInt64)
    (ht : f.templates[a % f.templates.length]? = some t) (sink : Sink) :
    f.nextQuery sink = do
      let (done, left) ← t.write f.source sink
      return (match done with
        | .ok () => .ok (a + 1).toUInt64
        | .error why => .error (.stopped why), left, { f with queries := (a + 1).toUInt64 }) := by
  have hnumber : a.toUInt64 + 1 = (a + 1).toUInt64 := (UInt64.ofNat_add a 1).symm
  unfold nextQuery
  split
  · rename_i hnil
    rw [hnil] at ht
    cases ht
  · rename_i first rest hcons
    rw [hcons] at ht hn
    have hturn : ((f.queries + 1 - 1) % (rest.length + 1).toUInt64).toNat
        = a % (first :: rest).length := by
      rw [hqueries]
      exact toNat_turn ha hn
    simp only
    rw [hturn, ht, hqueries, hnumber]
    rfl

theorem boundText_source (hacc : ofEntities entities window interval = .ok f) (ha : Alike f g) :
    g.source.boundText = Bound.shown window g.now := by
  have hwindow : g.window = window := by rw [ha.window, window_of_ofEntities hacc]
  funext b
  rw [Source.boundText_eq, ← hwindow]
  rfl

/-- **One query** while there are templates in place: it is an instance of the one whose turn it is,
and it counts whether or not the sink takes all of it. -/
theorem Turned.query (hacc : ofEntities entities window interval = .ok f) (h : Turned f ops g)
    (hne : installed f.tagKeys ops ≠ [])
    (hlength : (installed f.tagKeys ops).length < UInt64.size)
    (hasked : asked f.tagKeys ops + 1 < UInt64.size) (sink : Sink) (s : Stream) :
    ∃ t q s', (installed f.tagKeys ops)[asked f.tagKeys ops
        % (installed f.tagKeys ops).length]? = some t ∧
      (g.respond (.query sink)).run s
        = ((.query q, { g with queries := (asked f.tagKeys ops + 1).toUInt64 }), s') ∧
      q.given = sink ∧ q.now = g.now ∧
      q.Tells entities window f.tagKeys t (asked f.tagKeys ops + 1) := by
  have hlt : asked f.tagKeys ops % (installed f.tagKeys ops).length
      < (installed f.tagKeys ops).length := Nat.mod_lt _ (List.length_pos_iff.2 hne)
  have ht := List.getElem?_eq_getElem hlt
  generalize (installed f.tagKeys ops)[asked f.tagKeys ops
    % (installed f.tagKeys ops).length] = t at ht
  obtain ⟨text, times, hparse⟩ := (ready_installed hne).parsed t (List.mem_of_getElem? ht)
  have hnext : g.nextQuery sink = _ := nextQuery_turn (t := t) (by omega)
    (by rw [h.templates_eq]; exact hlength) h.queries_eq (by rw [h.templates_eq]; exact ht) sink
  have hholds : g.source.Holds entities f.tagKeys := holds_source hacc h.alike
  obtain ⟨primary, hprimary, texts, hshows, hputs⟩ := hholds.puts_all (sound_of_parse hparse) s
  rw [boundText_source hacc h.alike] at hshows
  rw [respond_query, hnext, StateT.run_bind, write]
  -- the number is taken in both cases, and only the answer tells whether the sink was full
  cases hfit : (sink.write (String.join texts).toUTF8).2 with
  | true =>
    rw [hputs.whole sink hfit]
    exact ⟨t, _, _, ht, rfl, rfl, rfl, primary, hprimary, texts, hshows, rfl, by rw [hfit]; rfl⟩
  | false =>
    obtain ⟨s', hcut⟩ := hputs.cut sink hfit
    rw [hcut]
    exact ⟨t, _, _, ht, rfl, rfl, rfl, primary, hprimary, texts, hshows, rfl, by rw [hfit]; rfl⟩

/-! ## queries in a row -/

def Answer.query? : Answer → Option Query
  | .query q => some q
  | _ => none

theorem query?_respond (f : Fleet) {op : Op} (h : op.isQuery = false) (s : Stream) :
    ((f.respond op).run s).1.1.query? = none := by
  cases op with
  | next p => rfl
  | query sink => exact absurd h Bool.noConfusion
  | written count => rfl
  | install texts times =>
    rw [respond_install]
    cases verdict f.tagKeys times texts <;> rfl

/-- **Queries in a row**, as many as there are templates at most and with no new templates between
them, are instances of the templates in turn, from the one whose turn it is. -/
theorem Turned.round (hacc : ofEntities entities window interval = .ok f) (h : Turned f ops g)
    (hlength : (installed f.tagKeys ops).length < UInt64.size) {mid : List Op}
    (hmid : ∀ op ∈ mid, op.accepted? f.tagKeys = none)
    (hle : mid.countP Op.isQuery ≤ (installed f.tagKeys ops).length)
    (hasked : asked f.tagKeys ops + mid.countP Op.isQuery < UInt64.size) (s : Stream) :
    List.Forall₂ (fun t q => ∃ number, Query.Tells q entities window f.tagKeys t number)
      (((installed f.tagKeys ops).rotate (asked f.tagKeys ops)).take (mid.countP Op.isQuery))
      (((g.respondAll mid).run s).1.1.filterMap Answer.query?) := by
  induction mid using List.reverseRecOn with
  | nil => exact .nil
  | append_singleton mid op ih =>
    rw [List.forall_mem_append, List.forall_mem_singleton] at hmid
    rw [List.countP_append, List.countP_singleton] at hle hasked ⊢
    have ih := ih hmid.1 (by omega) (by omega)
    have hturned := h.respondAll mid s
    rw [respondAll_concat, List.filterMap_append]
    -- the last operation answers a query or adds nothing to the queries answered so far
    cases hquery : op.isQuery with
    | false =>
      rw [List.filterMap_cons_none (query?_respond _ hquery _), List.filterMap_nil,
        List.append_nil, if_neg Bool.noConfusion, Nat.add_zero]
      exact ih
    | true =>
      rw [hquery, if_pos rfl] at hle hasked
      have hne : installed f.tagKeys ops ≠ [] := List.length_pos_iff.1 (by omega)
      obtain ⟨hinstalled, hcount⟩ := @history_append f.tagKeys ops mid hmid.1
      have hcount := hcount hne
      cases op with
      | query sink =>
        obtain ⟨t, q, s', ht, hrun, -, -, htells⟩ := hturned.query hacc (by rwa [hinstalled])
          (by rwa [hinstalled]) (by omega) sink ((g.respondAll mid).run s).2
        rw [hinstalled, hcount, Nat.add_comm (asked f.tagKeys ops)] at ht
        rw [if_pos rfl, List.take_add_one, List.getElem?_rotate (by omega), ht, hrun]
        exact List.rel_append ih (.cons ⟨_, htells⟩ .nil)
      | next p => exact absurd hquery Bool.noConfusion
      | written count => exact absurd hquery Bool.noConfusion
      | install texts times => exact absurd hquery Bool.noConfusion

/-! ## every run -/

/-- **Every run of operations** of an accepted fleet.  Installations that were refused can be left
out, and nothing else answers anything else.  After the run

* an installation succeeds exactly for texts that can be installed, and else tells the first fault;
* a query without templates in place takes nothing and does not count;
* with `T` templates in place, query number `k` is an instance of template number `(k - 1) % T`,
  whatever became of the queries before it, and answers `k` if its sink takes all of it, as long as
  a word can count queries and templates;
* in a round of `T` queries without new templates each template has its turn exactly once. -/
theorem respondAll_turns (hacc : ofEntities entities window interval = .ok f) (ops : List Op)
    (s : Stream) :
    ∃ answers g s', (f.respondAll ops).run s = ((answers, g), s') ∧
      (f.respondAll (kept ops answers)).run s
        = ((answers.filter fun a => !a.refused, g), s') ∧
      (∀ texts times, ∃ result g',
        (g.respond (.install texts times)).run s' = ((.install result, g'), s') ∧
        (result = .ok () ↔ Installable f.tagKeys times texts) ∧
        (result = .ok () ↔ (Op.accepted? f.tagKeys (.install texts times)).isSome) ∧
        ∀ e, result = .error e ↔ Refused f.tagKeys times texts e) ∧
      ((∀ op ∈ ops, op.accepted? f.tagKeys = none) → ∀ sink,
        (g.respond (.query sink)).run s'
          = ((.query ⟨g.now, sink, .error .noTemplates, sink⟩, g), s')) ∧
      (installed f.tagKeys ops ≠ [] → (installed f.tagKeys ops).length < UInt64.size →
        (asked f.tagKeys ops + 1 < UInt64.size → ∀ sink, ∃ t q g' s'',
          (installed f.tagKeys ops)[asked f.tagKeys ops % (installed f.tagKeys ops).length]? = some t ∧
          (g.respond (.query sink)).run s' = ((.query q, g'), s'') ∧ q.given = sink ∧
          q.now = g.now ∧ q.Tells entities window f.tagKeys t (asked f.tagKeys ops + 1)) ∧
        ∀ mid, (∀ op ∈ mid, op.accepted? f.tagKeys = none) →
          mid.countP Op.isQuery = (installed f.tagKeys ops).length →
          asked f.tagKeys ops + (installed f.tagKeys ops).length < UInt64.size →
          ∃ used, used.Perm (installed f.tagKeys ops) ∧
            List.Forall₂ (fun t q => ∃ number, Query.Tells q entities window f.tagKeys t number) used
              (((g.respondAll mid).run s').1.1.filterMap Answer.query?)) := by
  have hturned := (turned_of_ofEntities hacc).respondAll ops s
  have hkept := respondAll_kept f ops s
  rw [List.nil_append] at hturned
  generalize (f.respondAll ops).run s = reached at hturned hkept
  obtain ⟨⟨answers, g⟩, s'⟩ := reached
  have hturned : Turned f ops g := hturned
  refine ⟨answers, g, s', rfl, hkept, ?_, fun hnone sink =>
    hturned.query_nil (installed_eq_nil_iff.2 hnone) sink s', ?_⟩
  · intro texts times
    obtain ⟨hok, herror⟩ := verdict_iff f.tagKeys times texts
    rw [respond_install, hturned.alike.tagKeys]
    rcases verdict_spec f.tagKeys times texts with ⟨ts, hts, hsome, -⟩ | ⟨e, he, hnone, -⟩
    · rw [hts] at hok herror ⊢
      refine ⟨.ok (), _, rfl, ?_, ?_, fun e => ?_⟩
      · rw [← hok]
        exact iff_of_true rfl ⟨ts, rfl⟩
      · rw [hsome]
        exact iff_of_true rfl rfl
      · rw [← herror]
        simp
    · rw [he] at hok herror ⊢
      refine ⟨.error e, _, rfl, ?_, ?_, fun e' => ?_⟩
      · rw [← hok]
        simp
      · rw [hnone]
        simp
      · rw [← herror, Except.error.injEq, Except.error.injEq]
  · intro hne hlength
    refine ⟨fun hasked sink => ?_, fun mid hmid hcount hasked => ?_⟩
    · obtain ⟨t, q, s'', ht, hrun, hgiven, hnow, htells⟩ :=
        hturned.query hacc hne hlength hasked sink s'
      exact ⟨t, q, _, s'', ht, hrun, hgiven, hnow, htells⟩
    · have hround := hturned.round hacc hlength hmid (Nat.le_of_eq hcount) (by omega) s'
      rw [hcount, ← List.length_rotate _ (asked f.tagKeys ops), List.take_length] at hround
      exact ⟨_, List.rotate_perm _ _, hround⟩

/-- a query before all templates, one that a full sink stops, and two refused installations -/
def trial : List Op :=
  [.query {}, .install ["a", "\x7b\x7bhostname\x7d\x7d"] 1, .query ⟨some 0, .empty⟩,
    .install ["b", "\x7b\x7brack\x7d\x7d"] 1, .install [] 1]

/-- after these operations the next query is the second, of the second template; with a report in
between, it and the one after it make a round -/
theorem respondAll_turns_two_hosts :
    ∃ f ts, ofEntities twoHosts ⟨0, 3000000000⟩ (.ofSeconds 1) = .ok f ∧
      ts = [⟨"a", [.literal "a"]⟩,
        ⟨"\x7b\x7bhostname\x7d\x7d", [.placeholder (.tag 0) 1]⟩] ∧
      ∃ answers g s', (f.respondAll trial).run ⟨1⟩ = ((answers, g), s') ∧
        (f.respondAll (kept trial answers)).run ⟨1⟩
          = ((answers.filter fun a => !a.refused, g), s') ∧
        (∃ t q g' s'', ts[1]? = some t ∧ (g.respond (.query {})).run s' = ((.query q, g'), s'') ∧
          q.Tells twoHosts ⟨0, 3000000000⟩ f.tagKeys t 2) ∧
        ∃ used, used.Perm ts ∧
          List.Forall₂ (fun t q => ∃ number,
              Query.Tells q twoHosts ⟨0, 3000000000⟩ f.tagKeys t number) used
            (((g.respondAll [.query {}, .written 1, .query {}]).run s').1.1.filterMap
              Answer.query?) := by
  have hacc : ∃ f, ofEntities twoHosts ⟨0, 3000000000⟩ (.ofSeconds 1) = .ok f ∧
      f.tagKeys = ["hostname"] := ⟨_, rfl, rfl⟩
  obtain ⟨f, hacc, hkeys⟩ := hacc
  refine ⟨f, _, hacc, rfl, ?_⟩
  obtain ⟨answers, g, s', hrun, hkept, -, -, hquery⟩ := respondAll_turns hacc trial ⟨1⟩
  have hinstalled : installed ["hostname"] trial
      = [⟨"a", [.literal "a"]⟩, ⟨"\x7b\x7bhostname\x7d\x7d", [.placeholder (.tag 0) 1]⟩] := by
    decide +kernel
  have hasked : asked ["hostname"] trial = 1 := by decide +kernel
  rw [← hkeys] at hinstalled hasked
  rw [hinstalled, hasked] at hquery
  obtain ⟨hone, hround⟩ := hquery (List.cons_ne_nil _ _) (by decide)
  obtain ⟨t, q, g', s'', ht, hnext, -, -, htells⟩ := hone (by decide) {}
  exact ⟨answers, g, s', hrun, hkept, ⟨t, q, g', s'', ht, hnext, htells⟩,
    hround [.query {}, .written 1, .query {}] (by simp [Op.accepted?]) rfl (by decide)⟩

end

end Telemetry.Fleet
