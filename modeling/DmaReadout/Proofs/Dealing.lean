import DmaReadout.Proofs.Conservation
import Mathlib.Data.List.Induction

/-!
# How pushes are spread over the links

Every push goes to the first of the links that hold the fewest superpages. So pushes level the
links: one that was given anything holds at most one superpage more than any other. Links that were
empty are served in turn.
-/

namespace DmaReadout

open Link (Fewest PassedAll departures)
open Pipeline (Enqueued)

variable {κ : Type}

lemma getElem?_concat_of_ne {α : Type} {items : List α} {n : Nat} (h : n ≠ items.length)
    (item : α) : (items ++ [item])[n]? = items[n]? := by
  rcases Nat.lt_or_gt_of_ne h with hlt | hgt
  · exact List.getElem?_append_left hlt
  · rw [List.getElem?_eq_none (Nat.le_of_lt hgt), List.getElem?_eq_none]
    rw [List.length_append]
    exact hgt

/-- A link and the superpages that it holds. -/
def Link.held (link : Link) : LinkId × List Superpage :=
  (link.id, link.queue.toList)

lemma Link.pending_of_held {link link' : Link} (h : link.held = link'.held) :
    link.pending = link'.pending := by
  have hlength := congrArg (·.2.length) h
  dsimp only [held] at hlength
  rwa [BoundedQueue.length_toList, BoundedQueue.length_toList] at hlength

lemma Link.exists_held {links links' : List Link} (h : links'.map held = links.map held)
    {place : Nat} {link' : Link} (hlink' : links'[place]? = some link') :
    ∃ link, links[place]? = some link ∧ link.held = link'.held := by
  have hplace : (links.map held)[place]? = some link'.held := by
    rw [← h, List.getElem?_map, hlink', Option.map_some]
  rw [List.getElem?_map, Option.map_eq_some_iff] at hplace
  exact hplace

/-- If nothing has left the links, they hold the same as before. -/
lemma Link.PassedAll.map_held {links links' : List Link} {ready ready' : BoundedQueue Superpage}
    {quotas : List Nat} {moves : List (LinkId × Nat)}
    (h : PassedAll links ready quotas links' ready' moves) (hnone : departures links links' = []) :
    links'.map held = links.map held := by
  induction h with
  | rest => rfl
  | @next first first' links links' ready _ _ quota _ _ hfirst _ ih =>
    rw [departures, List.append_eq_nil_iff, List.map_eq_nil_iff] at hnone
    have hcount : first.pending - first'.pending = first.share ready quota := by
      have := hfirst.shed.pending
      omega
    have hqueue : first.queue.toList = first'.queue.toList := by
      have htaken := hfirst.shed.taken
      rw [← hcount, hnone.1] at htaken
      exact htaken
    rw [List.map_cons, List.map_cons, ih hnone.2, held, held, hfirst.shed.id, hqueue]

/-- Superpages were dealt to the links, each to the first of those that held the fewest. -/
inductive Dealt (links : List Link) : List (LinkId × Superpage) → List Link → Prop
  | start : Dealt links [] links
  | same {entries : List (LinkId × Superpage)} {middle last : List Link}
      (h : Dealt links entries middle) (hsame : last.map Link.held = middle.map Link.held) :
      Dealt links entries last
  | next {entries : List (LinkId × Superpage)} {middle : List Link} {place : Nat} {link : Link}
      {superpage : Superpage} {queue : BoundedQueue Superpage} (h : Dealt links entries middle)
      (hfewest : Fewest middle place link) (hqueue : link.queue.push superpage = .ok queue) :
      Dealt links (entries ++ [(link.id, superpage)]) (middle.set place { link with queue })

/-- What a link holds now continues what it held. If it was given anything, it holds at most one
superpage more than any other of the links. -/
structure Levelled (links : List Link) (link link' : Link) : Prop where
  given : link.queue.toList <+: link'.queue.toList
  level : link.pending < link'.pending → ∀ other ∈ links, link'.pending ≤ other.pending + 1

namespace Dealt

variable {links last : List Link} {entries : List (LinkId × Superpage)}

lemma map_id (h : Dealt links entries last) : last.map Link.id = links.map Link.id := by
  induction h with
  | start => rfl
  | same _ hsame ih =>
    have hids := congrArg (List.map Prod.fst) hsame
    rw [List.map_map, List.map_map] at hids
    exact hids.trans ih
  | @next _ middle _ _ _ _ _ hfewest _ ih =>
    rw [← ih]
    exact Link.map_set_of_eq hfewest.found rfl

theorem levelled (h : Dealt links entries last) {place : Nat} {link link' : Link}
    (hlink : links[place]? = some link) (hlink' : last[place]? = some link') :
    Levelled last link link' := by
  induction h generalizing link' with
  | start =>
    obtain rfl : link = link' := Option.some.inj (hlink.symm.trans hlink')
    exact ⟨List.prefix_refl _, fun hlt => absurd hlt (Nat.lt_irrefl _)⟩
  | same _ hsame ih =>
    obtain ⟨link₁, hlink₁, hheld⟩ := Link.exists_held hsame hlink'
    obtain ⟨hgiven, hlevel⟩ := ih hlink₁
    have hpending := Link.pending_of_held hheld
    have hqueue : link₁.queue.toList = link'.queue.toList := congrArg Prod.snd hheld
    rw [hpending] at hlevel
    refine ⟨hqueue ▸ hgiven, fun hlt other hother => ?_⟩
    obtain ⟨i, hi⟩ := List.getElem?_of_mem hother
    obtain ⟨other₁, hother₁, hheld₁⟩ := Link.exists_held hsame hi
    rw [← Link.pending_of_held hheld₁]
    exact hlevel hlt other₁ (List.mem_of_getElem? hother₁)
  | @next _ middle place' least superpage queue _ hfewest hqueue ih =>
    have hgrown := Link.pending_of_push hqueue
    have hleast := List.mem_of_getElem? hfewest.found
    have hminimal : ∀ other ∈ middle.set place' { least with queue },
        least.pending ≤ other.pending := by
      intro other hother
      rcases List.mem_or_eq_of_mem_set hother with hother | rfl
      · exact hfewest.le other hother
      · rw [hgrown]
        exact Nat.le_succ _
    rw [List.getElem?_set] at hlink'
    by_cases hplace : place' = place
    · subst hplace
      obtain ⟨hlt, -⟩ := List.getElem?_eq_some_iff.1 hfewest.found
      rw [if_pos rfl, if_pos hlt, Option.some.injEq] at hlink'
      subst hlink'
      refine ⟨(ih hfewest.found).given.trans ?_, fun _ other hother => ?_⟩
      · dsimp only
        rw [BoundedQueue.toList_of_push hqueue]
        exact List.prefix_append _ _
      · rw [hgrown]
        exact Nat.succ_le_succ (hminimal other hother)
    · rw [if_neg hplace] at hlink'
      obtain ⟨hgiven, hlevel⟩ := ih hlink'
      refine ⟨hgiven, fun hlt other hother => ?_⟩
      rcases List.mem_or_eq_of_mem_set hother with hother | rfl
      · exact hlevel hlt other hother
      · have hle := hlevel hlt least hleast
        omega

end Dealt

/-- The entries were dealt to the links in turn, beginning with the first link: with three links,
the second holds the entries numbered 1, 4, 7 and so on. -/
structure DealtInTurn (ids : List LinkId) (entries : List (LinkId × Superpage))
    (links : List Link) : Prop where
  order : links.map Link.id = ids
  turns : ∀ n entry, entries[n]? = some entry → ids[n % ids.length]? = some entry.1
  queues : ∀ place link, links[place]? = some link → ∀ m,
    link.queue.toList[m]? = (entries.map Prod.snd)[place + m * ids.length]?

namespace DealtInTurn

variable {ids : List LinkId} {entries : List (LinkId × Superpage)} {links : List Link}
  {place : Nat} {link : Link}

lemma lt_length (h : DealtInTurn ids entries links) (hlink : links[place]? = some link) :
    place < ids.length := by
  rw [← h.order, List.length_map]
  exact (List.getElem?_eq_some_iff.1 hlink).1

lemma lt_pending_iff (h : DealtInTurn ids entries links) (hlink : links[place]? = some link)
    (m : Nat) : m < link.pending ↔ place + m * ids.length < entries.length := by
  have hnone : link.pending ≤ m ↔ entries.length ≤ place + m * ids.length := by
    rw [Link.pending, ← BoundedQueue.length_toList, ← List.getElem?_eq_none_iff,
      h.queues place link hlink, List.getElem?_eq_none_iff, List.length_map]
  rw [← Nat.not_le, hnone, Nat.not_le]

/-- The first of the links with the fewest superpages is the one whose turn it is. -/
lemma length_eq (h : DealtInTurn ids entries links) (hfewest : Fewest links place link) :
    entries.length = place + link.pending * ids.length := by
  have hplace := h.lt_length hfewest.found
  have hle : entries.length ≤ place + link.pending * ids.length :=
    Nat.not_lt.1 fun hlt => Nat.lt_irrefl _ ((h.lt_pending_iff hfewest.found _).2 hlt)
  have hge : place + link.pending * ids.length ≤ entries.length := by
    cases place with
    | succ before =>
      -- The link before has been served in this round already.
      have hbefore : before < links.length := by
        have := (List.getElem?_eq_some_iff.1 hfewest.found).1
        omega
      have hfound := List.getElem?_eq_getElem hbefore
      have hlt := (h.lt_pending_iff hfound _).1 (hfewest.lt before (Nat.lt_succ_self _) _ hfound)
      omega
    | zero =>
      cases hpending : link.pending with
      | zero => omega
      | succ rounds =>
        -- The last link was served in the round before.
        have hlast : ids.length - 1 < links.length := by
          rw [← h.order, List.length_map] at hplace ⊢
          omega
        have hfound := List.getElem?_eq_getElem hlast
        have hround : rounds < links[ids.length - 1].pending := by
          have hfew := hfewest.le _ (List.getElem_mem hlast)
          omega
        have hlt := (h.lt_pending_iff hfound _).1 hround
        rw [Nat.succ_mul]
        omega
  exact Nat.le_antisymm hle hge

theorem next (h : DealtInTurn ids entries links) (hfewest : Fewest links place link)
    {superpage : Superpage} {queue : BoundedQueue Superpage}
    (hqueue : link.queue.push superpage = .ok queue) :
    DealtInTurn ids (entries ++ [(link.id, superpage)]) (links.set place { link with queue }) := by
  have hplace := h.lt_length hfewest.found
  have hlength := h.length_eq hfewest
  have hid : ids[place]? = some link.id := by
    rw [← h.order, List.getElem?_map, hfewest.found, Option.map_some]
  constructor
  · rw [← h.order]
    exact Link.map_set_of_eq hfewest.found rfl
  · intro n entry hentry
    by_cases hn : n = entries.length
    · rw [hn, List.getElem?_concat_length, Option.some.injEq] at hentry
      rw [← hentry, hn, hlength, Nat.add_mul_mod_self_right, Nat.mod_eq_of_lt hplace]
      exact hid
    · rw [getElem?_concat_of_ne hn] at hentry
      exact h.turns n entry hentry
  · intro place' link' hlink' m
    have hlengths : (entries.map Prod.snd).length = entries.length := List.length_map _
    rw [List.getElem?_set] at hlink'
    rw [List.map_append, List.map_singleton]
    by_cases hsame : place = place'
    · subst hsame
      obtain ⟨hlt, -⟩ := List.getElem?_eq_some_iff.1 hfewest.found
      rw [if_pos rfl, if_pos hlt, Option.some.injEq] at hlink'
      subst hlink'
      dsimp only
      rw [BoundedQueue.toList_of_push hqueue]
      have hpending : link.pending = link.queue.toList.length := (BoundedQueue.length_toList _).symm
      by_cases hm : m = link.pending
      · rw [hm, ← hlength, ← hlengths, hpending, List.getElem?_concat_length,
          List.getElem?_concat_length]
      · have hne : place + m * ids.length ≠ (entries.map Prod.snd).length := by
          rw [hlengths, hlength]
          intro heq
          exact hm (Nat.eq_of_mul_eq_mul_right (Nat.zero_lt_of_lt hplace) (Nat.add_left_cancel heq))
        rw [hpending] at hm
        rw [getElem?_concat_of_ne hne, getElem?_concat_of_ne hm]
        exact h.queues place link hfewest.found m
    · rw [if_neg hsame] at hlink'
      have hne : place' + m * ids.length ≠ (entries.map Prod.snd).length := by
        rw [hlengths, hlength]
        intro heq
        have hmod := congrArg (· % ids.length) heq
        rw [Nat.add_mul_mod_self_right, Nat.add_mul_mod_self_right, Nat.mod_eq_of_lt hplace,
          Nat.mod_eq_of_lt (h.lt_length hlink')] at hmod
        exact hsame hmod.symm
      rw [getElem?_concat_of_ne hne]
      exact h.queues place' link' hlink' m

end DealtInTurn

/-- Links that hold nothing are served in turn. -/
theorem Dealt.in_turn {links last : List Link} {entries : List (LinkId × Superpage)}
    (h : Dealt links entries last) (hempty : ∀ link ∈ links, link.queue.toList = []) :
    DealtInTurn (links.map Link.id) entries last := by
  induction h with
  | start =>
    refine ⟨rfl, nofun, ?_⟩
    intro place link hlink m
    rw [hempty link (List.mem_of_getElem? hlink)]
    rfl
  | same _ hsame ih =>
    have hids := congrArg (List.map Prod.fst) hsame
    rw [List.map_map, List.map_map] at hids
    refine ⟨hids.trans ih.order, ih.turns, ?_⟩
    intro place link' hlink' m
    obtain ⟨link, hlink, hheld⟩ := Link.exists_held hsame hlink'
    have hqueue : link.queue.toList = link'.queue.toList := congrArg Prod.snd hheld
    rw [← hqueue]
    exact ih.queues place link hlink m
  | next _ hfewest hqueue ih => exact ih.next hfewest hqueue

namespace Endpoint

/-- A push goes to the first of the links with the fewest superpages. -/
theorem ensures_submit_fewest (endpoint : Endpoint κ) (channel : Channel κ) (superpage : Superpage)
    (pages : UInt32) (busAddress : UInt64) :
    Ensures (endpoint.submit superpage pages busAddress) channel
      (fun id last => ∃ place link, Fewest channel.pipeline.links place link ∧ id = link.id ∧
        Enqueued channel.pipeline place link superpage last.pipeline)
      (fun _ last => last.pipeline = channel.pipeline) := by
  cases hnext : channel.pipeline.nextLink with
  | error e =>
    unfold Ensures
    rw [submit_of_no_link hnext]
  | ok chosen =>
    obtain ⟨place, link⟩ := chosen
    have hfewest := (Pipeline.chosen_of_nextLink hnext).2.1
    apply (endpoint.ensures_submit_of_nextLink hnext superpage pages busAddress).mono
    · rintro id last ⟨hid, henqueued, -⟩
      exact ⟨place, link, hfewest, hid, henqueued⟩
    · rintro e last ⟨fault, -, hlast, -⟩
      rw [hlast]

end Endpoint

namespace Tracked

variable {endpoint : Endpoint κ} {tracked : Tracked κ} {links : List Link}

lemma proceed_deals {last : Channel κ} {quotas : List Nat} {moves : List (LinkId × Nat)}
    (hadvanced : Pipeline.Advanced tracked.channel.pipeline quotas last.pipeline moves)
    (hnone : (tracked.proceed last).history.moved = [])
    (h : Dealt links tracked.history.accepted tracked.channel.pipeline.links) :
    Dealt links tracked.history.accepted last.pipeline.links :=
  .same h (hadvanced.passed.map_held (List.append_eq_nil_iff.1 hnone).2)

/-- A step of a run in which nothing moves deals what it pushes. -/
theorem perform_deals (endpoint : Endpoint κ) {transfer : Transfer} (hclear : transfer ≠ .clear)
    (hnone : (tracked.perform endpoint transfer).history.moved = [])
    (h : Dealt links tracked.history.accepted tracked.channel.pipeline.links) :
    Dealt links (tracked.perform endpoint transfer).history.accepted
      (tracked.perform endpoint transfer).channel.pipeline.links := by
  cases transfer with
  | clear => exact absurd rfl hclear
  | push superpage pages busAddress =>
    have hsubmit := endpoint.ensures_submit_fewest tracked.channel superpage pages busAddress
    cases hrun : endpoint.submit superpage pages busAddress tracked.channel with
    | ok id last =>
      obtain ⟨place, link, hfewest, rfl, henqueued⟩ := hsubmit.of_ok hrun
      obtain ⟨queue, hqueue, hpipeline⟩ := henqueued.exists_queue
      simp only [perform, hrun, hpipeline]
      exact .next h hfewest hqueue
    | error e last =>
      have hsame := hsubmit.of_error hrun
      simp only [perform, hrun, hsame]
      exact h
  | fill =>
    obtain ⟨-, quotas, moves, hadvanced⟩ := Endpoint.lastState_collect endpoint tracked.channel
    have hdealt := proceed_deals hadvanced hnone h
    exact hdealt
  | drain =>
    have hdrain := (Endpoint.drain_advances endpoint tracked.channel).of_lastState
    obtain ⟨-, quotas, moves, hadvanced⟩ := hdrain
    have hdealt := proceed_deals hadvanced hnone h
    exact hdealt
  | pop =>
    have hpop := Channel.ensures_pop tracked.channel
    cases hrun : Channel.pop tracked.channel with
    | ok superpage last =>
      obtain ⟨hpopped, -⟩ := hpop.of_ok hrun
      simp only [perform, hrun, hpopped.links]
      exact h
    | error e last =>
      have hsame := hpop.of_error hrun
      simp only [perform, hrun, hsame]
      exact h
  | peek =>
    simp only [perform, Channel.lastState_peek]
    exact h

lemma moved_of_perform {transfer : Transfer} (hclear : transfer ≠ .clear)
    (hnone : (tracked.perform endpoint transfer).history.moved = []) :
    tracked.history.moved = [] := by
  cases transfer with
  | clear => exact absurd rfl hclear
  | push superpage pages busAddress =>
    simp only [perform] at hnone
    split at hnone <;> exact hnone
  | fill => exact (List.append_eq_nil_iff.1 hnone).1
  | drain => exact (List.append_eq_nil_iff.1 hnone).1
  | pop =>
    simp only [perform] at hnone
    split at hnone <;> exact hnone
  | peek => exact hnone

/-- A run in which nothing moves deals what it pushes. -/
theorem run_deals (endpoint : Endpoint κ) (channel : Channel κ) {transfers : List Transfer}
    (hclear : .clear ∉ transfers)
    (hnone : (run endpoint ⟨channel, {}⟩ transfers).history.moved = []) :
    let last := run endpoint ⟨channel, {}⟩ transfers
    Dealt channel.pipeline.links last.history.accepted last.channel.pipeline.links := by
  induction transfers using List.reverseRecOn with
  | nil => exact .start
  | append_singleton transfers transfer ih =>
    rw [List.mem_append, not_or, List.mem_singleton] at hclear
    obtain ⟨hothers, hother⟩ := hclear
    rw [run_append] at hnone ⊢
    have hbefore : (run endpoint ⟨channel, {}⟩ transfers).history.moved = [] :=
      moved_of_perform (Ne.symm hother) hnone
    exact perform_deals endpoint (Ne.symm hother) hnone (ih hothers hbefore)

end Tracked

/-- A push goes to the first of the links with the fewest superpages, and changes no other. After
any run in which nothing moves, every link that was given a superpage holds at most one more than
any other. Once the queues are cleared, the links are served in turn as long as nothing moves. -/
theorem pushes_level_links (endpoint : Endpoint κ) (before : Channel κ) (transfers : List Transfer)
    (hclear : .clear ∉ transfers) :
    let start := before.pipeline.links
    let last := Tracked.run endpoint ⟨before, {}⟩ transfers
    let dealt := Tracked.run endpoint ⟨before, {}⟩ (.clear :: transfers)
    (∀ superpage pages busAddress id next,
      endpoint.submit superpage pages busAddress before = .ok id next →
      ∃ place link, Fewest start place link ∧ id = link.id ∧
        Enqueued before.pipeline place link superpage next.pipeline) ∧
    (last.history.moved = [] →
      last.channel.pipeline.links.map Link.id = start.map Link.id ∧
      ∀ (place : Nat) (link link' : Link), start[place]? = some link →
        last.channel.pipeline.links[place]? = some link' →
        Levelled last.channel.pipeline.links link link') ∧
    (dealt.history.moved = [] →
      DealtInTurn (start.map Link.id) dealt.history.accepted dealt.channel.pipeline.links) := by
  intro start last dealt
  refine ⟨?_, ?_, ?_⟩
  · intro superpage pages busAddress id next hsubmit
    have hfewest := endpoint.ensures_submit_fewest before superpage pages busAddress
    exact hfewest.of_ok hsubmit
  · intro hnone
    have hdealt : Dealt start last.history.accepted last.channel.pipeline.links :=
      Tracked.run_deals endpoint before hclear hnone
    refine ⟨hdealt.map_id, ?_⟩
    intro place link link' hlink hlink'
    exact hdealt.levelled hlink hlink'
  · intro hnone
    let cleared : Channel κ := { before with pipeline := before.pipeline.clear }
    have hdealt : Dealt cleared.pipeline.links dealt.history.accepted
        dealt.channel.pipeline.links :=
      Tracked.run_deals endpoint cleared hclear hnone
    have hids : cleared.pipeline.links.map Link.id = start.map Link.id :=
      (Pipeline.Update.clear before.pipeline).map_id
    rw [← hids]
    apply hdealt.in_turn
    intro link hlink
    obtain ⟨link, -, rfl⟩ := List.mem_map.1 hlink
    rfl

/-- Three more superpages are pushed where the two links hold two and none, and where both have
just been cleared. -/
theorem pushes_level_links_three :
    let endpoint : Endpoint SimulatedCard :=
      ⟨{}, SimulatedCard.registers, LinearBuffer.toBuffer { size := 0 }⟩
    let card : SimulatedCard := { completion := .manual, counters := ⟨[(⟨5⟩, ⟨0, 1⟩)]⟩ }
    let opened : Channel SimulatedCard := ⟨.running, .idle [⟨3⟩, ⟨5⟩] 4 8, false, card, {}⟩
    let pushes : List Transfer := [.push ⟨0, 8, 0, false, 1⟩ 1 0, .push ⟨8, 8, 0, false, 2⟩ 1 0,
      .push ⟨16, 8, 0, false, 3⟩ 1 0]
    let before := (Tracked.run endpoint ⟨opened, {}⟩ (pushes ++ [.fill])).channel
    .clear ∉ pushes ∧ before.pipeline.links.map Link.pending = [2, 0] ∧
      (Tracked.run endpoint ⟨before, {}⟩ pushes).history.moved = [] ∧
      (∀ (place : Nat) (link link' : Link), before.pipeline.links[place]? = some link →
        (Tracked.run endpoint ⟨before, {}⟩ pushes).channel.pipeline.links[place]? = some link' →
        Levelled (Tracked.run endpoint ⟨before, {}⟩ pushes).channel.pipeline.links link link') ∧
      (Tracked.run endpoint ⟨before, {}⟩ (.clear :: pushes)).history.moved = [] ∧
      DealtInTurn (before.pipeline.links.map Link.id)
        (Tracked.run endpoint ⟨before, {}⟩ (.clear :: pushes)).history.accepted
        (Tracked.run endpoint ⟨before, {}⟩ (.clear :: pushes)).channel.pipeline.links := by
  intro endpoint card opened pushes before
  have hclear : .clear ∉ pushes := by simp [pushes]
  have hlast : (Tracked.run endpoint ⟨before, {}⟩ pushes).history.moved = [] := by decide +kernel
  have hdealt : (Tracked.run endpoint ⟨before, {}⟩ (.clear :: pushes)).history.moved = [] := by
    decide +kernel
  obtain ⟨-, hlevels, hturns⟩ := pushes_level_links endpoint before pushes hclear
  exact ⟨hclear, by decide +kernel, hlast, (hlevels hlast).2, hdealt, hturns hdealt⟩

end DmaReadout
