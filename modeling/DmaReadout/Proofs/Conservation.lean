import DmaReadout.Proofs.Transfers
import DmaReadout.SimulatedCard.Basic

/-!
# No superpage is lost or duplicated

The history of a channel's queues records which superpages a link accepted, which have moved
on to the ready queue, and which the consumer took, since the queues were last cleared. Every
accepted superpage is then in exactly one place, and the superpages of one link keep their
order, whatever the card answers.
-/

namespace DmaReadout

open Link (PassedAll departures)
open Pipeline (Advanced Enqueued Popped)

/-- What may be asked of the queues of a channel, in any state of its lifecycle. -/
inductive Transfer
  | push (superpage : Superpage) (pages : UInt32) (busAddress : UInt64)
  | fill
  | drain
  | pop
  | peek
  | clear

/-- What has become of superpages since the queues were cleared, oldest first. -/
structure History where
  /-- The superpages whose push succeeded, with their links. -/
  accepted : List (LinkId × Superpage) := []
  /-- The superpages that have left their links for the ready queue. -/
  moved : List (LinkId × Superpage) := []
  /-- The superpages that the consumer took, as it got them. -/
  popped : List Superpage := []

/-- A channel with the history of its queues. -/
structure Tracked (κ : Type) where
  channel : Channel κ
  history : History := {}

/-- The entries of one link, in order. -/
def onLink (id : LinkId) (entries : List (LinkId × Superpage)) : List Superpage :=
  entries.filterMap fun entry => if entry.1 = id then some entry.2 else none

/-- The superpages that links still hold. -/
def waiting (links : List Link) : List (LinkId × Superpage) :=
  links.flatMap fun link => link.queue.toList.map (link.id, ·)

namespace Tracked

variable {κ : Type}

/-- The channel has become `last`; what its links lost meanwhile has moved on. -/
def proceed (tracked : Tracked κ) (last : Channel κ) : Tracked κ where
  channel := last
  history := { tracked.history with
    moved := tracked.history.moved ++
      departures tracked.channel.pipeline.links last.pipeline.links }

def perform (endpoint : Endpoint κ) (tracked : Tracked κ) : Transfer → Tracked κ
  | .push superpage pages busAddress =>
    match endpoint.submit superpage pages busAddress tracked.channel with
    | .ok id last => ⟨last, { tracked.history with
        accepted := tracked.history.accepted ++ [(id, superpage)] }⟩
    | .error _ last => ⟨last, tracked.history⟩
  | .fill => tracked.proceed (lastState endpoint.collect tracked.channel)
  | .drain => tracked.proceed (lastState endpoint.drain tracked.channel)
  | .pop =>
    match Channel.pop tracked.channel with
    | .ok superpage last => ⟨last, { tracked.history with
        popped := tracked.history.popped ++ [superpage] }⟩
    | .error _ last => ⟨last, tracked.history⟩
  | .peek => ⟨lastState Channel.peek tracked.channel, tracked.history⟩
  | .clear => ⟨{ tracked.channel with pipeline := tracked.channel.pipeline.clear }, {}⟩

def run (endpoint : Endpoint κ) (tracked : Tracked κ) (transfers : List Transfer) : Tracked κ :=
  transfers.foldl (perform endpoint) tracked

lemma run_append (endpoint : Endpoint κ) (tracked : Tracked κ) (before after : List Transfer) :
    tracked.run endpoint (before ++ after) = (tracked.run endpoint before).run endpoint after :=
  List.foldl_append

end Tracked

section OnLink

lemma onLink_append (id : LinkId) (entries others : List (LinkId × Superpage)) :
    onLink id (entries ++ others) = onLink id entries ++ onLink id others :=
  List.filterMap_append

lemma onLink_map_self (id : LinkId) (superpages : List Superpage) :
    onLink id (superpages.map (id, ·)) = superpages := by
  have hsome : (fun entry : LinkId × Superpage => if entry.1 = id then some entry.2 else none) ∘
      (id, ·) = some := by
    funext superpage
    exact if_pos rfl
  unfold onLink
  rw [List.filterMap_map, hsome, List.filterMap_some]

lemma onLink_map_ne {id other : LinkId} (h : other ≠ id) (superpages : List Superpage) :
    onLink id (superpages.map (other, ·)) = [] := by
  unfold onLink
  rw [List.filterMap_map]
  simp [h]

lemma onLink_eq_nil {id : LinkId} {entries : List (LinkId × Superpage)}
    (h : ∀ entry ∈ entries, entry.1 ≠ id) : onLink id entries = [] := by
  unfold onLink
  rw [List.filterMap_eq_nil_iff]
  intro entry hentry
  rw [if_neg (h entry hentry)]

/-- What a link held is what it has lost, followed by what it still holds. -/
lemma onLink_departures {links links' : List Link} {ready ready' : BoundedQueue Superpage}
    {quotas : List Nat} {moves : List (LinkId × Nat)}
    (h : PassedAll links ready quotas links' ready' moves) (hids : (links.map Link.id).Nodup) :
    ∀ link' ∈ links', ∃ link ∈ links, link.id = link'.id ∧
      link.queue.toList = onLink link.id (departures links links') ++ link'.queue.toList := by
  induction h with
  | @rest links _ _ _ =>
    intro link hlink
    refine ⟨link, hlink, rfl, ?_⟩
    rw [Link.departures_self]
    rfl
  | @next first first' links links' ready _ _ quota _ _ hfirst _ ih =>
    rw [List.map_cons, List.nodup_cons] at hids
    obtain ⟨hfresh, hids⟩ := hids
    have hcount : first.pending - first'.pending = first.share ready quota := by
      have := hfirst.shed.pending
      omega
    intro link' hlink'
    rcases List.mem_cons.1 hlink' with rfl | hlink'
    · refine ⟨first, List.mem_cons_self, hfirst.shed.id.symm, ?_⟩
      have hrest : onLink first.id (departures links links') = [] := by
        apply onLink_eq_nil
        intro entry hentry heq
        exact hfresh (heq ▸ Link.id_of_mem_departures hentry)
      rw [departures, onLink_append, onLink_map_self, hrest, hcount, List.append_nil]
      exact hfirst.shed.taken
    · obtain ⟨link, hlink, hid, hqueue⟩ := ih hids link' hlink'
      have hne : first.id ≠ link.id := by
        intro heq
        exact hfresh (heq ▸ List.mem_map_of_mem hlink)
      refine ⟨link, List.mem_cons_of_mem _ hlink, hid, ?_⟩
      rw [departures, onLink_append, onLink_map_ne hne, List.nil_append]
      exact hqueue

end OnLink

section Waiting

lemma waiting_departures {links links' : List Link} {ready ready' : BoundedQueue Superpage}
    {quotas : List Nat} {moves : List (LinkId × Nat)}
    (h : PassedAll links ready quotas links' ready' moves) :
    (waiting links).Perm (departures links links' ++ waiting links') := by
  induction h with
  | @rest links _ _ _ =>
    rw [Link.departures_self]
    exact List.Perm.refl _
  | @next first first' links links' ready _ _ quota _ _ hfirst _ ih =>
    have hcount : first.pending - first'.pending = first.share ready quota := by
      have := hfirst.shed.pending
      omega
    have hheld : first.queue.toList.map (first.id, ·) =
        (first.queue.toList.take (first.share ready quota)).map (first.id, ·) ++
          first'.queue.toList.map (first'.id, ·) := by
      rw [hfirst.shed.id, ← List.map_append, ← hfirst.shed.taken]
    unfold waiting at ih ⊢
    rw [List.flatMap_cons, List.flatMap_cons, departures, hcount, hheld, List.append_assoc,
      List.append_assoc]
    apply List.Perm.append_left
    exact (ih.append_left _).trans (List.perm_append_comm_assoc _ _ _)

lemma waiting_set {links : List Link} {place : Nat} {link link' : Link}
    {superpage : Superpage} (hfound : links[place]? = some link) (hid : link'.id = link.id)
    (hqueue : link'.queue.toList = link.queue.toList ++ [superpage]) :
    (waiting (links.set place link')).Perm ((link.id, superpage) :: waiting links) := by
  induction links generalizing place with
  | nil => simp at hfound
  | cons first links ih =>
    unfold waiting at ih ⊢
    cases place with
    | zero =>
      rw [List.getElem?_cons_zero, Option.some.injEq] at hfound
      subst hfound
      rw [List.set_cons_zero, List.flatMap_cons, List.flatMap_cons, hqueue, hid,
        List.map_append, List.append_assoc]
      exact List.perm_middle
    | succ place =>
      rw [List.getElem?_cons_succ] at hfound
      rw [List.set_cons_succ, List.flatMap_cons, List.flatMap_cons]
      exact ((ih hfound).append_left _).trans List.perm_middle

lemma waiting_eq_nil {links : List Link} (h : ∀ link ∈ links, link.queue.toList = []) :
    waiting links = [] := by
  unfold waiting
  rw [List.flatMap_eq_nil_iff]
  intro link hlink
  rw [h link hlink, List.map_nil]

end Waiting

/-- The history accounts for everything that is in the queues, and for nothing else. -/
structure Conserved (pipeline : Pipeline) (history : History) : Prop where
  links : ∀ link ∈ pipeline.links, onLink link.id history.accepted =
    onLink link.id history.moved ++ link.queue.toList
  ready : history.moved.map (fun entry => entry.2.markReady) =
    history.popped ++ pipeline.ready.toList
  places : history.accepted.Perm (history.moved ++ waiting pipeline.links)

namespace Conserved

variable {pipeline pipeline' : Pipeline} {history : History}

lemma of_empty (hlinks : ∀ link ∈ pipeline.links, link.queue.toList = [])
    (hready : pipeline.ready.toList = []) : Conserved pipeline {} where
  links link hlink := by
    rw [hlinks link hlink]
    rfl
  ready := by
    rw [hready]
    rfl
  places := by
    rw [waiting_eq_nil hlinks]
    exact List.Perm.nil

lemma enqueue (h : Conserved pipeline history) (hids : (pipeline.links.map Link.id).Nodup)
    {place : Nat} {link : Link} {superpage : Superpage}
    (henqueued : Enqueued pipeline place link superpage pipeline') :
    Conserved pipeline' { history with
      accepted := history.accepted ++ [(link.id, superpage)] } where
  links link' hlink' := by
    dsimp only
    rw [onLink_append]
    rcases henqueued.mem_links hids hlink' with ⟨queue, hqueue, rfl⟩ | ⟨hlink', hne⟩
    · have hlink := List.mem_of_getElem? henqueued.found
      rw [h.links link hlink, BoundedQueue.toList_of_push hqueue, ← List.append_assoc]
      exact congrArg _ (onLink_map_self link.id [superpage])
    · rw [h.links link' hlink']
      have hnil : onLink link'.id [(link.id, superpage)] = [] :=
        onLink_map_ne hne.symm [superpage]
      rw [hnil, List.append_nil]
  ready := by
    obtain ⟨queue, _, rfl⟩ := henqueued.exists_queue
    exact h.ready
  places := by
    obtain ⟨queue, hqueue, rfl⟩ := henqueued.exists_queue
    have hset : (waiting (pipeline.links.set place { link with queue })).Perm
        ((link.id, superpage) :: waiting pipeline.links) :=
      waiting_set henqueued.found rfl (BoundedQueue.toList_of_push hqueue)
    have hfirst : (history.accepted ++ [(link.id, superpage)]).Perm
        ([(link.id, superpage)] ++ history.accepted) := List.perm_append_comm
    have hrest := (h.places.cons (link.id, superpage)).trans
      List.perm_middle.symm
    exact (hfirst.trans hrest).trans (hset.symm.append_left _)

lemma advance (h : Conserved pipeline history) (hids : (pipeline.links.map Link.id).Nodup)
    {quotas : List Nat} {moves : List (LinkId × Nat)}
    (hadvanced : Advanced pipeline quotas pipeline' moves) :
    Conserved pipeline' { history with
      moved := history.moved ++ departures pipeline.links pipeline'.links } where
  links link' hlink' := by
    obtain ⟨link, hlink, hid, hqueue⟩ := onLink_departures hadvanced.passed hids link' hlink'
    dsimp only
    rw [onLink_append, ← hid, h.links link hlink, hqueue, List.append_assoc]
  ready := by
    dsimp only
    rw [List.map_append, h.ready, hadvanced.passed.arrived, List.append_assoc]
  places := by
    dsimp only
    rw [List.append_assoc]
    exact h.places.trans ((waiting_departures hadvanced.passed).append_left _)

lemma pop (h : Conserved pipeline history) {superpage : Superpage}
    (hpopped : Popped pipeline superpage pipeline') :
    Conserved pipeline' { history with popped := history.popped ++ [superpage] } where
  links := by
    rw [hpopped.links]
    exact h.links
  ready := by
    dsimp only
    rw [h.ready, hpopped.taken, List.append_assoc]
    rfl
  places := by
    rw [hpopped.links]
    exact h.places

end Conserved

/-- A history in which nothing is lost, duplicated or overtaken. -/
structure Accounted (pipeline : Pipeline) (history : History) : Prop
    extends Conserved pipeline history where
  /-- The superpages taken by the consumer are the first that moved. -/
  popped : history.popped =
    (history.moved.take history.popped.length).map fun entry => entry.2.markReady
  /-- Those of one link were taken in the order in which it accepted them. -/
  order : ∀ link ∈ pipeline.links,
    onLink link.id (history.moved.take history.popped.length) <+:
      onLink link.id history.accepted
  /-- What the consumer gets is complete, and otherwise as it was pushed. -/
  intact : ∀ superpage ∈ history.popped, ∃ entry ∈ history.accepted,
    superpage.offset = entry.2.offset ∧ superpage.size = entry.2.size ∧
      superpage.userData = entry.2.userData ∧ superpage.ready = true ∧
      superpage.received = superpage.size

lemma Conserved.accounted {pipeline : Pipeline} {history : History}
    (h : Conserved pipeline history) : Accounted pipeline history := by
  have hlength : history.popped.length ≤ history.moved.length := by
    have hl := congrArg List.length h.ready
    rw [List.length_map, List.length_append] at hl
    omega
  have hpopped : history.popped =
      (history.moved.take history.popped.length).map fun entry => entry.2.markReady := by
    rw [List.map_take, h.ready, List.take_left]
  refine ⟨h, hpopped, ?_, ?_⟩
  · intro link hlink
    have hmoved : onLink link.id (history.moved.take history.popped.length) <+:
        onLink link.id history.moved := by
      refine ⟨onLink link.id (history.moved.drop history.popped.length), ?_⟩
      rw [← onLink_append, List.take_append_drop]
    rw [h.links link hlink]
    exact hmoved.trans (List.prefix_append _ _)
  · intro superpage hsuperpage
    rw [hpopped] at hsuperpage
    obtain ⟨entry, hentry, rfl⟩ := List.mem_map.1 hsuperpage
    have haccepted : entry ∈ history.accepted :=
      h.places.mem_iff.2 (List.mem_append_left _ (List.mem_of_mem_take hentry))
    exact ⟨entry, haccepted, rfl, rfl, rfl, rfl, rfl⟩

namespace Tracked

variable {κ : Type} {endpoint : Endpoint κ} {tracked : Tracked κ}

lemma proceed_conserved {last : Channel κ}
    (hids : (tracked.channel.pipeline.links.map Link.id).Nodup)
    (h : Conserved tracked.channel.pipeline tracked.history) {quotas : List Nat}
    {moves : List (LinkId × Nat)}
    (hadvanced : Advanced tracked.channel.pipeline quotas last.pipeline moves) :
    (last.pipeline.links.map Link.id).Nodup ∧
      Conserved (tracked.proceed last).channel.pipeline (tracked.proceed last).history := by
  refine ⟨?_, h.advance hids hadvanced⟩
  rw [(Pipeline.Update.advance hadvanced).map_id]
  exact hids

theorem perform_conserved (endpoint : Endpoint κ)
    (hids : (tracked.channel.pipeline.links.map Link.id).Nodup)
    (h : Conserved tracked.channel.pipeline tracked.history) (transfer : Transfer) :
    ((tracked.perform endpoint transfer).channel.pipeline.links.map Link.id).Nodup ∧
      Conserved (tracked.perform endpoint transfer).channel.pipeline
        (tracked.perform endpoint transfer).history := by
  cases transfer with
  | push superpage pages busAddress =>
    have hsubmit := endpoint.ensures_submit tracked.channel superpage pages busAddress
    cases hrun : endpoint.submit superpage pages busAddress tracked.channel with
    | ok id last =>
      obtain ⟨place, link, rfl, henqueued, -, -⟩ := hsubmit.of_ok hrun
      simp only [perform, hrun]
      refine ⟨?_, h.enqueue hids henqueued⟩
      rw [henqueued.map_id]
      exact hids
    | error e last =>
      have hsame : last.pipeline = tracked.channel.pipeline := by
        rcases hsubmit.of_error hrun with rfl | ⟨_, _, _, hlast, _⟩
        · rfl
        · rw [hlast]
      simp only [perform, hrun]
      rw [hsame]
      exact ⟨hids, h⟩
  | fill =>
    obtain ⟨-, quotas, moves, hadvanced⟩ := Endpoint.lastState_collect endpoint tracked.channel
    exact proceed_conserved hids h hadvanced
  | drain =>
    have hdrain := (Endpoint.drain_advances endpoint tracked.channel).of_lastState
    obtain ⟨-, quotas, moves, hadvanced⟩ := hdrain
    exact proceed_conserved hids h hadvanced
  | pop =>
    have hpop := Channel.ensures_pop tracked.channel
    cases hrun : Channel.pop tracked.channel with
    | ok superpage last =>
      obtain ⟨hpopped, -⟩ := hpop.of_ok hrun
      simp only [perform, hrun]
      refine ⟨?_, h.pop hpopped⟩
      rw [hpopped.links]
      exact hids
    | error e last =>
      have hsame := hpop.of_error hrun
      simp only [perform, hrun]
      rw [hsame]
      exact ⟨hids, h⟩
  | peek =>
    simp only [perform, Channel.lastState_peek]
    exact ⟨hids, h⟩
  | clear =>
    constructor
    · change (tracked.channel.pipeline.clear.links.map Link.id).Nodup
      rw [(Pipeline.Update.clear tracked.channel.pipeline).map_id]
      exact hids
    · apply Conserved.of_empty
      · intro link hlink
        obtain ⟨link, -, rfl⟩ := List.mem_map.1 hlink
        rfl
      · rfl

theorem run_conserved (hids : (tracked.channel.pipeline.links.map Link.id).Nodup)
    (h : Conserved tracked.channel.pipeline tracked.history) (transfers : List Transfer) :
    Conserved (tracked.run endpoint transfers).channel.pipeline
      (tracked.run endpoint transfers).history := by
  induction transfers generalizing tracked with
  | nil => exact h
  | cons transfer transfers ih =>
    obtain ⟨hids', h'⟩ := perform_conserved endpoint hids h transfer
    exact ih hids' h'

/-- Whatever is pushed, polled, drained and taken, in any order and whatever the card answers,
every superpage accepted since the queues were last cleared is in exactly one place, and is
handed to the consumer at most once, complete and in the order of its link. -/
theorem run_accounted (endpoint : Endpoint κ) (channel : Channel κ) (ids : List LinkId)
    (hids : ids.Nodup) (linkCapacity readyCapacity : Nat) (transfers : List Transfer) :
    let opened := { channel with pipeline := .idle ids linkCapacity readyCapacity }
    let last := run endpoint ⟨opened, {}⟩ transfers
    Accounted last.channel.pipeline last.history := by
  dsimp only
  apply Conserved.accounted
  apply run_conserved
  · unfold Pipeline.idle
    rw [List.map_map]
    simpa [Function.comp_def, Link.idle] using hids
  · apply Conserved.of_empty
    · intro link hlink
      obtain ⟨id, -, rfl⟩ := List.mem_map.1 hlink
      rfl
    · rfl

/-- Of three superpages on two links, the consumer has taken the first. -/
theorem run_accounted_two_links :
    let endpoint : Endpoint SimulatedCard :=
      ⟨{}, SimulatedCard.registers, LinearBuffer.toBuffer { size := 0 }⟩
    let opened := ⟨.running, .idle [⟨3⟩, ⟨5⟩] 2 2, false, {}, {}⟩
    let last := run endpoint ⟨opened, {}⟩ [.push ⟨0, 8, 0, false, 1⟩ 1 0,
      .push ⟨8, 8, 0, false, 2⟩ 1 0, .push ⟨16, 8, 0, false, 3⟩ 1 0, .fill, .pop, .drain]
    [(⟨3⟩ : LinkId), ⟨5⟩].Nodup ∧ Accounted last.channel.pipeline last.history ∧
      last.history.popped = [⟨0, 8, 8, true, 1⟩] := by
  refine ⟨by decide, ?_, rfl⟩
  exact run_accounted _ (⟨.running, .idle [] 0 0, false, {}, {}⟩ : Channel SimulatedCard)
    [⟨3⟩, ⟨5⟩] (by decide) 2 2 _

end Tracked

end DmaReadout
