import DmaReadout.Proofs.AccessHistory
import DmaReadout.Proofs.Transfers

/-!
# Reading the counters of the links

A poll and a drain read the counters of the links one after the other, in the order of the links.
The card may answer each read as it likes, so its answers are a list, and what a pass over the
links finds is a function of that list: a poll stops at the first answer that a link objects to, a
drain at the first that is a fault.
-/

namespace DmaReadout

open Pipeline (Advanced)

variable {κ : Type}

namespace Registers

/-- What the card answers when the counters of these links are read in turn, whatever it answers. -/
def counterReplies (registers : Registers κ) : List LinkId → κ → List (Except Fault UInt32)
  | [], _ => []
  | id :: ids, card =>
    let (reply, card) := registers.perform (.superpageCount id) card
    reply :: registers.counterReplies ids card

/-- The card once the counters of these links were read. -/
def afterReads (registers : Registers κ) (card : κ) (ids : List LinkId) : κ :=
  ids.foldl (fun card id => (registers.perform (.superpageCount id) card).2) card

variable {registers : Registers κ} {id : LinkId} {ids : List LinkId} {card card' : κ}
  {reply : Except Fault UInt32}

lemma counterReplies_cons (h : registers.perform (.superpageCount id) card = (reply, card')) :
    registers.counterReplies (id :: ids) card = reply :: registers.counterReplies ids card' := by
  rw [counterReplies, h]

lemma afterReads_cons (h : registers.perform (.superpageCount id) card = (reply, card')) :
    registers.afterReads card (id :: ids) = registers.afterReads card' ids := by
  rw [afterReads, List.foldl_cons, h]
  rfl

lemma length_counterReplies (registers : Registers κ) (ids : List LinkId) (card : κ) :
    (registers.counterReplies ids card).length = ids.length := by
  induction ids generalizing card with
  | nil => rfl
  | cons id ids ih => exact congrArg (· + 1) (ih _)

lemma counterReplies_recorded (registers : Registers κ) (ids : List LinkId)
    (history : AccessHistory) (card : κ) :
    registers.recorded.counterReplies ids (history, card) = registers.counterReplies ids card := by
  induction ids generalizing history card with
  | nil => rfl
  | cons id ids ih => exact congrArg _ (ih _ _)

end Registers

namespace Link

/-- What is wrong with an answer to a read of the counter of a link: it is a fault, or it counts
more completions than superpages are outstanding. -/
def objection? : Link × Except Fault UInt32 → Option ReadoutError
  | (_, .error fault) => some (.hardware fault)
  | (link, .ok count) =>
    if (link.arrivals count).toNat > link.pending then
      some (.protocolViolation link.id count link.counter link.pending)
    else none

/-- A poll does not go on after this answer. -/
def objects (answer : Link × Except Fault UInt32) : Bool :=
  (objection? answer).isSome

/-- The answers that a poll gets: those up to the first that a link objects to. -/
def heard (answers : List (Link × Except Fault UInt32)) : List (Link × Except Fault UInt32) :=
  answers.take (answers.findIdx objects + 1)

section Heard

variable {answer : Link × Except Fault UInt32} {answers : List (Link × Except Fault UInt32)}

lemma heard_stop (h : objects answer = true) : heard (answer :: answers) = [answer] := by
  rw [heard, List.findIdx_cons, h]
  rfl

lemma heard_next (h : objects answer = false) :
    heard (answer :: answers) = answer :: heard answers := by
  rw [heard, List.findIdx_cons, h]
  rfl

end Heard

/-- What has arrived on each link, by what the card has counted there. -/
def allArrivals (links : List Link) (counts : List UInt32) : List Nat :=
  List.zipWith (fun link count => (link.arrivals count).toNat) links counts

lemma length_allArrivals {links : List Link} {counts : List UInt32}
    (h : counts.length = links.length) : (allArrivals links counts).length = links.length := by
  rw [allArrivals, List.length_zipWith, h, Nat.min_self]

end Link

/-- The answers are these counts, and then, if there is a fault, that fault and any others. -/
def CountsUntil (replies : List (Except Fault UInt32)) (counts : List UInt32) :
    Option Fault → Prop
  | none => replies = counts.map Except.ok
  | some fault => ∃ rest, replies = counts.map Except.ok ++ .error fault :: rest

namespace CountsUntil

variable {replies : List (Except Fault UInt32)} {counts : List UInt32} {fault? : Option Fault}

/-- Whatever the card answers, there are counts up to the first fault. -/
lemma exists_of_replies (replies : List (Except Fault UInt32)) :
    ∃ counts fault?, CountsUntil replies counts fault? := by
  induction replies with
  | nil => exact ⟨[], none, rfl⟩
  | cons reply replies ih =>
    cases reply with
    | error fault => exact ⟨[], some fault, replies, rfl⟩
    | ok count =>
      obtain ⟨counts, fault?, hcounts⟩ := ih
      refine ⟨count :: counts, fault?, ?_⟩
      cases fault? with
      | none => exact congrArg (Except.ok count :: ·) hcounts
      | some fault =>
        obtain ⟨rest, hrest⟩ := hcounts
        exact ⟨rest, congrArg (Except.ok count :: ·) hrest⟩

lemma of_nil (h : CountsUntil [] counts fault?) : counts = [] ∧ fault? = none := by
  cases fault? with
  | none => exact ⟨List.map_eq_nil_iff.1 h.symm, rfl⟩
  | some fault =>
    obtain ⟨rest, hrest⟩ := h
    simp at hrest

lemma of_error {fault : Fault} (h : CountsUntil (.error fault :: replies) counts fault?) :
    counts = [] ∧ fault? = some fault := by
  cases counts with
  | nil =>
    cases fault? with
    | none => cases h
    | some fault =>
      obtain ⟨rest, hrest⟩ := h
      cases hrest
      exact ⟨rfl, rfl⟩
  | cons count counts =>
    cases fault? with
    | none => cases h
    | some fault =>
      obtain ⟨rest, hrest⟩ := h
      cases hrest

lemma of_ok {count : UInt32} (h : CountsUntil (.ok count :: replies) counts fault?) :
    ∃ others, counts = count :: others ∧ CountsUntil replies others fault? := by
  cases counts with
  | nil =>
    cases fault? with
    | none => cases h
    | some fault =>
      obtain ⟨rest, hrest⟩ := h
      cases hrest
  | cons first counts =>
    cases fault? with
    | none =>
      cases h
      exact ⟨counts, rfl, rfl⟩
    | some fault =>
      obtain ⟨rest, hrest⟩ := h
      cases hrest
      exact ⟨counts, rfl, rest, rfl⟩

end CountsUntil

namespace Endpoint

/-- The links with the answers to reads of their counters. -/
def polled (endpoint : Endpoint κ) (links : List Link) (card : κ) :
    List (Link × Except Fault UInt32) :=
  links.zip (endpoint.registers.counterReplies (links.map Link.id) card)

variable {endpoint : Endpoint κ} {link : Link} {links : List Link} {card card' : κ}
  {reply : Except Fault UInt32}

lemma polled_cons
    (h : endpoint.registers.perform (.superpageCount link.id) card = (reply, card')) :
    endpoint.polled (link :: links) card = (link, reply) :: endpoint.polled links card' := by
  rw [polled, List.map_cons, Registers.counterReplies_cons h]
  rfl

/-- The card once a poll got these answers. -/
def afterAnswers (endpoint : Endpoint κ) (card : κ) (answers : List (Link × Except Fault UInt32)) :
    κ :=
  endpoint.registers.afterReads card (answers.map fun answer => answer.1.id)

lemma afterAnswers_cons {answers : List (Link × Except Fault UInt32)}
    (h : endpoint.registers.perform (.superpageCount link.id) card = (reply, card')) :
    endpoint.afterAnswers card ((link, reply) :: answers) = endpoint.afterAnswers card' answers :=
  Registers.afterReads_cons h

/-- A recorder sees the reads of a poll, one after the other. -/
lemma history_afterAnswers (endpoint : Endpoint κ) (links : List Link) (history : AccessHistory)
    (card : κ) :
    (endpoint.recorded.afterAnswers (history, card) (Link.heard (endpoint.polled links card))).1 =
      history ++ (Link.heard (endpoint.polled links card)).map fun answer =>
        ⟨.superpageCount answer.1.id, answer.2.isOk⟩ := by
  induction links generalizing history card with
  | nil => exact (List.append_nil _).symm
  | cons link links ih =>
    rcases hperform : endpoint.registers.perform (.superpageCount link.id) card with ⟨reply, card'⟩
    have hrecorded := Registers.perform_recorded hperform history
    rw [polled_cons hperform]
    cases hobjects : Link.objects (link, reply) with
    | true =>
      rw [Link.heard_stop hobjects, afterAnswers_cons hrecorded]
      rfl
    | false =>
      rw [Link.heard_next hobjects, afterAnswers_cons hrecorded, ih, List.map_cons,
        List.append_assoc]
      rfl

lemma polled_recorded (endpoint : Endpoint κ) (links : List Link) (history : AccessHistory)
    (card : κ) : endpoint.recorded.polled links (history, card) = endpoint.polled links card :=
  congrArg (links.zip ·) (Registers.counterReplies_recorded _ _ _ _)

/-- A poll goes through the answers up to the first objection. If there is none, it has the counts
of all links. -/
theorem ensures_pollArrivals (endpoint : Endpoint κ) (links : List Link) (channel : Channel κ) :
    let answers := endpoint.polled links channel.card
    let card := endpoint.afterAnswers channel.card (Link.heard answers)
    Ensures (endpoint.pollArrivals links) channel
      (fun arrivals last => answers.findSome? Link.objection? = none ∧
        last = { channel with card } ∧ ∃ counts : List UInt32,
          endpoint.registers.counterReplies (links.map Link.id) channel.card =
            counts.map Except.ok ∧
          arrivals = Link.allArrivals links counts)
      (fun e last => answers.findSome? Link.objection? = some e ∧
        last = { channel with card, journal := last.journal }) := by
  induction links generalizing channel with
  | nil => exact ⟨rfl, rfl, [], rfl, rfl⟩
  | cons link links ih =>
    dsimp only
    rw [pollArrivals, ensures_bind, ensures_access]
    constructor
    · intro count card hperform
      rw [polled_cons hperform, List.findSome?_cons]
      by_cases hexcess : (link.arrivals count).toNat > link.pending
      · have hobjection : Link.objection? (link, .ok count) =
            some (.protocolViolation link.id count link.counter link.pending) := if_pos hexcess
        have hstops : Link.objects (link, .ok count) = true := congrArg Option.isSome hobjection
        rw [if_pos hexcess, hobjection, Link.heard_stop hstops, afterAnswers_cons hperform]
        exact ⟨rfl, rfl⟩
      · have hobjection : Link.objection? (link, .ok count) = none := if_neg hexcess
        have hgoes : Link.objects (link, .ok count) = false := congrArg Option.isSome hobjection
        rw [if_neg hexcess, hobjection, Link.heard_next hgoes, afterAnswers_cons hperform,
          ensures_bind]
        apply (ih { channel with card }).mono
        · rintro arrivals last ⟨hnone, hlast, counts, hreplies, rfl⟩
          refine ⟨hnone, hlast, count :: counts, ?_, rfl⟩
          rw [List.map_cons, Registers.counterReplies_cons hperform, hreplies]
          rfl
        · rintro e last ⟨hsome, hlast⟩
          exact ⟨hsome, hlast⟩
    · intro fault card hperform
      rw [polled_cons hperform, List.findSome?_cons, Link.heard_stop rfl,
        afterAnswers_cons hperform]
      exact ⟨rfl, rfl⟩

/-- A fill is a poll of the links that it finds, and then a pass over them. -/
lemma collect_run (endpoint : Endpoint κ) (channel : Channel κ) : endpoint.collect channel =
    (endpoint.pollArrivals channel.pipeline.links >>= Channel.advance) channel := rfl

/-- A fill moves what has arrived if no link objects, and nothing otherwise. -/
theorem ensures_collect_polled (endpoint : Endpoint κ) (channel : Channel κ) :
    let links := channel.pipeline.links
    let answers := endpoint.polled links channel.card
    let card := endpoint.afterAnswers channel.card (Link.heard answers)
    Ensures endpoint.collect channel
      (fun moved last => answers.findSome? Link.objection? = none ∧ ∃ (counts : List UInt32)
        (moves : List (LinkId × Nat)),
          endpoint.registers.counterReplies (links.map Link.id) channel.card =
            counts.map Except.ok ∧
          Advanced channel.pipeline (Link.allArrivals links counts) last.pipeline moves ∧
          moved = Link.totalMoved moves ∧
          last = { channel with
            pipeline := last.pipeline
            card
            journal := channel.journal.countMoves moves })
      (fun e last => answers.findSome? Link.objection? = some e ∧
        last = { channel with card, journal := last.journal }) := by
  apply ensures_collect
  apply (ensures_pollArrivals endpoint channel.pipeline.links channel).mono
  · rintro arrivals polled ⟨hnone, rfl, counts, hreplies, rfl⟩ pipeline moves hadvanced
    exact ⟨hnone, counts, moves, hreplies, hadvanced, rfl, rfl⟩
  · intro e polled hpolled
    exact hpolled

/-- A drain has the counts up to the first fault. -/
theorem ensures_readArrivals {counts : List UInt32} {fault? : Option Fault} {channel : Channel κ}
    (h : CountsUntil (endpoint.registers.counterReplies (links.map Link.id) channel.card) counts
      fault?) :
    Ensures (endpoint.readArrivals links) channel
      (fun answer last => answer = (Link.allArrivals links counts, fault?) ∧
        last.standing = channel.standing)
      (fun _ _ => False) := by
  induction links generalizing channel counts with
  | nil =>
    obtain ⟨rfl, rfl⟩ := h.of_nil
    exact ⟨rfl, rfl⟩
  | cons link links ih =>
    rw [readArrivals, ensures_bind, ensures_perform]
    intro reply card hperform
    rw [List.map_cons, Registers.counterReplies_cons hperform] at h
    cases reply with
    | error fault =>
      obtain ⟨rfl, rfl⟩ := h.of_error
      exact ⟨rfl, rfl⟩
    | ok count =>
      obtain ⟨others, rfl, hothers⟩ := h.of_ok
      have hrest (journal : Journal) :
          Ensures (endpoint.readArrivals links) { channel with card, journal }
            (fun answer last =>
              ((link.arrivals count).toNat :: answer.1, answer.2) =
                  (Link.allArrivals (link :: links) (count :: others), fault?) ∧
                last.standing = channel.standing)
            (fun _ _ => False) := by
        apply (@ih others { channel with card, journal } hothers).mono
        · rintro answer last ⟨rfl, hstanding⟩
          exact ⟨rfl, hstanding⟩
        · intro e last hfalse
          exact hfalse
      dsimp only
      split
      · rw [ensures_bind, Channel.ensures_note, ensures_bind]
        exact hrest _
      · rw [ensures_bind]
        exact hrest _

end Endpoint

end DmaReadout
