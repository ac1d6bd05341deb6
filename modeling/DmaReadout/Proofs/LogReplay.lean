import DmaReadout.Proofs.CardSettings
import Mathlib.Data.List.DropRight

/-!
# What the log of a card tells

The log of a simulated card tells how the card is set, and how many descriptors it has counted on
each link, whatever else was done to the card. A fault that is made to come strikes the next access,
whichever that is, and the access has no other effect.
-/

namespace DmaReadout

variable {β : Type}

/-- What can be done to a card without a channel on it. -/
inductive CardEvent
  | access (access : Access)
  | control (control : CardControl)
deriving DecidableEq

/-- Neither uses up a fault that is pending nor puts another in its place. -/
def CardEvent.LeavesFault : CardEvent → Prop
  | .access _ => False
  | .control (.failNext _) => False
  | .control _ => True

/-- A fault with this message was made to come, and nothing has come after that takes it away. -/
def CardEvent.Pending (message : String) (events : List CardEvent) : Prop :=
  ∃ before after, events = before ++ .control (.failNext message) :: after ∧
    ∀ event ∈ after, event.LeavesFault

namespace Command

/-- What the command sets the data source to, if it does. -/
def dataSource? : Command → Option (Option DataSource)
  | .setDataSource source => some (some source)
  | _ => none

def armed? : Command → Option Bool
  | .setBufferReady ready => some ready
  | _ => none

def debugMode? : Command → Option Bool
  | .setDebugMode enabled => some enabled
  | _ => none

def dataTaking? : Command → Option Bool
  | .enableDataTaking => some true
  | .disableDataTaking => some false
  | _ => none

/-- What the last of the commands that set something has set it to. -/
def lastSet (set? : Command → Option β) (initial : β) (log : List Command) : β :=
  (log.filterMap set?).getLast?.getD initial

/-- Whether the command hands a descriptor to the link. -/
def handsTo (link : LinkId) : Command → Bool
  | .pushSuperpage link' _ _ => link' = link
  | _ => false

/-- The commands after the last reset of the card. -/
def sinceReset (log : List Command) : List Command :=
  log.rtakeWhile (· ≠ .resetCard)

lemma lastSet_append (set? : Command → Option β) (initial : β) (log log' : List Command) :
    lastSet set? initial (log ++ log') = lastSet set? (lastSet set? initial log) log' := by
  unfold lastSet
  rw [List.filterMap_append, List.getLast?_append]
  cases (log'.filterMap set?).getLast? with
  | none => rfl
  | some last => rfl

lemma lastSet_singleton (set? : Command → Option β) (initial : β) (command : Command) :
    lastSet set? initial [command] = (set? command).getD initial := by
  unfold lastSet
  cases hset : set? command with
  | none => rw [List.filterMap_cons_none hset]; rfl
  | some value => rw [List.filterMap_cons_some hset]; rfl

/-- A reset forgets the descriptors, and every other command adds its own, if any. -/
lemma countP_sinceReset_append (link : LinkId) (log : List Command) (command : Command) :
    (sinceReset (log ++ [command])).countP (handsTo link) =
      if command = .resetCard then 0
      else (sinceReset log).countP (handsTo link) + if handsTo link command then 1 else 0 := by
  unfold sinceReset
  rw [List.rtakeWhile_concat]
  by_cases hreset : command = .resetCard
  · rw [if_pos hreset, if_neg (by simpa using hreset)]
    rfl
  · rw [if_neg hreset, if_pos (by simpa using hreset), List.countP_append, List.countP_singleton]

end Command

open Command (lastSet handsTo sinceReset)

namespace SimulatedCard

variable {card : SimulatedCard} {events : List CardEvent}

def afterCardEvent (card : SimulatedCard) : CardEvent → SimulatedCard
  | .access access => (registers.perform access card).2
  | .control control => card.control control

def afterCardEvents (card : SimulatedCard) (events : List CardEvent) : SimulatedCard :=
  events.foldl afterCardEvent card

/-- The card is as its log tells. -/
structure ReplaysLog (card : SimulatedCard) : Prop where
  dataSource : card.dataSource = lastSet Command.dataSource? none card.commands.toList
  armed : card.armed = lastSet Command.armed? false card.commands.toList
  debugMode : card.debugMode = lastSet Command.debugMode? false card.commands.toList
  dataTaking : card.dataTaking = lastSet Command.dataTaking? false card.commands.toList
  pushed : ∀ link, (card.pushed link).toNat =
    (sinceReset card.commands.toList).countP (handsTo link) % UInt32.size

lemma perform_of_failNext {message : String} (h : card.failNext = some message) (access : Access) :
    registers.perform access card = (.error (.because message), { card with failNext := none }) := by
  unfold registers
  dsimp only
  rw [h]

lemma perform_of_awake (h : card.failNext = none) (access : Access) :
    registers.perform access card =
      (.ok ((card.after access).reply access), card.after access) := by
  unfold registers
  dsimp only
  rw [h]

/-- What an access that has its effect preserves, and a control that leaves the log, holds in the
end. -/
theorem afterCardEvents_induction {P : SimulatedCard → Prop}
    (hafter : ∀ (card : SimulatedCard) access, P card → P (card.after access))
    (hrefused : ∀ (card : SimulatedCard) failNext, P card → P { card with failNext })
    (hcontrol : ∀ (card : SimulatedCard) control, control ≠ .clearCommands → P card →
      P (card.control control))
    (hlog : .control .clearCommands ∉ events) (hcard : P card) :
    P (card.afterCardEvents events) := by
  induction events generalizing card with
  | nil => exact hcard
  | cons event events ih =>
    rw [List.mem_cons, not_or] at hlog
    apply ih hlog.2
    cases event with
    | access access =>
      dsimp only [afterCardEvent]
      cases hnext : card.failNext with
      | some message =>
        rw [perform_of_failNext hnext]
        exact hrefused card none hcard
      | none =>
        rw [perform_of_awake hnext]
        exact hafter card access hcard
    | control control =>
      refine hcontrol card control ?_ hcard
      rintro rfl
      exact hlog.1 rfl

lemma commands_control (card : SimulatedCard) {control : CardControl}
    (h : control ≠ .clearCommands) : (card.control control).commands = card.commands := by
  cases control with
  | clearCommands => exact absurd rfl h
  | _ => rfl

lemma pushed_control (card : SimulatedCard) (control : CardControl) (link : LinkId) :
    (card.control control).pushed link = card.pushed link := by
  cases control with
  | setArrived link' count =>
    simp only [SimulatedCard.control, updateCounters, SimulatedCard.pushed,
      CounterTable.get_modify]
    by_cases hlink : link' = link
    · rw [if_pos hlink, hlink]
    · rw [if_neg hlink]
  | complete link' count =>
    have hhonest : (Event.control (.complete link' count)).Honest := trivial
    exact (card.control_completed hhonest).pushed link
  | completeAll =>
    have hhonest : (Event.control .completeAll).Honest := trivial
    exact (card.control_completed hhonest).pushed link
  | setCompletion completion => rfl
  | failNext message => rfl
  | setDroppedPackets count => rfl
  | clearCommands => rfl

lemma pushed_after_write (card : SimulatedCard) (command : Command) (link : LinkId) :
    (card.after (.write command)).pushed link =
      if command = .resetCard then 0
      else card.pushed link + if handsTo link command then 1 else 0 := by
  cases command with
  | pushSuperpage link' pages busAddress =>
    have hother : Command.pushSuperpage link' pages busAddress ≠ .resetCard := nofun
    rw [pushed_after_push, if_neg hother]
    unfold handsTo
    by_cases hlink : link' = link
    · rw [if_pos hlink, if_pos (decide_eq_true hlink)]
    · rw [if_neg hlink, if_neg (by simpa using hlink), UInt32.add_zero]
  | resetCard => rfl
  | _ => exact (UInt32.add_zero _).symm

/-- The descriptors that the card has counted on a link are those logged since its reset. -/
def CountsLogged (link : LinkId) (card : SimulatedCard) : Prop :=
  card.pushed link = UInt32.ofNat ((sinceReset card.commands.toList).countP (handsTo link))

lemma CountsLogged.after {link : LinkId} (h : card.CountsLogged link) (access : Access) :
    (card.after access).CountsLogged link := by
  unfold CountsLogged at *
  cases access with
  | write command =>
    rw [commands_after_write, Command.countP_sinceReset_append, pushed_after_write, h]
    by_cases hreset : command = .resetCard
    · rw [if_pos hreset, if_pos hreset]
      rfl
    · rw [if_neg hreset, if_neg hreset, UInt32.ofNat_add]
      split <;> rfl
  | superpageCount link' =>
    have hpushed := (Looked.after_superpageCount card link').pushed link
    have hlog : (card.after (.superpageCount link')).commands.toList = card.commands.toList :=
      (card.commands_after _).trans (List.append_nil _)
    rw [hlog, hpushed, h]
  | debugMode => exact h
  | droppedPackets => exact h

lemma CountsLogged.control {link : LinkId} (h : card.CountsLogged link) {control : CardControl}
    (hlog : control ≠ .clearCommands) : (card.control control).CountsLogged link := by
  unfold CountsLogged at *
  rw [commands_control card hlog, pushed_control, h]

theorem CountsLogged.afterCardEvents {link : LinkId} (h : card.CountsLogged link)
    (hlog : .control .clearCommands ∉ events) :
    (card.afterCardEvents events).CountsLogged link :=
  afterCardEvents_induction (fun _ access hcard => hcard.after access) (fun _ _ hcard => hcard)
    (fun _ _ hcontrol hcard => hcard.control hcontrol) hlog h

end SimulatedCard

namespace Setting

variable {setting : Setting β} {set? : Command → Option β} {initial : β} {card : SimulatedCard}
  {events : List CardEvent}

/-- These are the commands that change the setting, with what each sets it to. -/
def SetBy (setting : Setting β) (set? : Command → Option β) : Prop :=
  ∀ (card : SimulatedCard) command,
    setting.value (card.obey command) = (set? command).getD (setting.value card)

/-- The setting is what the last command in the log that changes it has set it to. -/
def Logged (setting : Setting β) (set? : Command → Option β) (initial : β)
    (card : SimulatedCard) : Prop :=
  setting.value card = lastSet set? initial card.commands.toList

lemma dataSource_setBy : dataSource.SetBy Command.dataSource? := by
  intro card command
  cases command <;> rfl

lemma armed_setBy : armed.SetBy Command.armed? := by
  intro card command
  cases command <;> rfl

lemma debugMode_setBy : debugMode.SetBy Command.debugMode? := by
  intro card command
  cases command <;> rfl

lemma dataTaking_setBy : dataTaking.SetBy Command.dataTaking? := by
  intro card command
  cases command <;> rfl

lemma Logged.after (h : setting.Logged set? initial card) (hset : setting.SetBy set?)
    (access : Access) : setting.Logged set? initial (card.after access) := by
  unfold Logged at *
  rw [card.commands_after, Command.lastSet_append, ← h]
  cases access with
  | write command =>
    rw [value_after_write, hset card command, Access.logged, Command.lastSet_singleton]
  | superpageCount link => exact setting.value_after_read card rfl
  | debugMode => rfl
  | droppedPackets => rfl

lemma Logged.control (h : setting.Logged set? initial card) {control : CardControl}
    (hlog : control ≠ .clearCommands) : setting.Logged set? initial (card.control control) := by
  unfold Logged at *
  rw [card.commands_control hlog, value_control, h]

lemma Logged.refused (h : setting.Logged set? initial card) (failNext : Option String) :
    setting.Logged set? initial { card with failNext } :=
  (setting.value_refused card failNext).trans h

theorem Logged.afterCardEvents (h : setting.Logged set? initial card) (hset : setting.SetBy set?)
    (hlog : .control .clearCommands ∉ events) :
    setting.Logged set? initial (card.afterCardEvents events) :=
  SimulatedCard.afterCardEvents_induction (fun _ access hcard => hcard.after hset access)
    (fun _ failNext hcard => hcard.refused failNext)
    (fun _ _ hcontrol hcard => hcard.control hcontrol) hlog h

end Setting

namespace CardEvent

variable {events : List CardEvent} {message : String}

/-- The last event decides whether a fault is pending, or leaves that to the earlier ones. -/
lemma pending_append {event : CardEvent} : Pending message (events ++ [event]) ↔
    event = .control (.failNext message) ∨ event.LeavesFault ∧ Pending message events := by
  constructor
  · rintro ⟨before, after, hsplit, hafter⟩
    rcases List.eq_nil_or_concat after with rfl | ⟨after, last, rfl⟩
    · obtain ⟨-, hevent⟩ := List.append_inj' hsplit rfl
      exact .inl (List.singleton_inj.1 hevent)
    · rw [List.concat_eq_append, ← List.cons_append, ← List.append_assoc] at hsplit
      obtain ⟨hevents, hevent⟩ := List.append_inj' hsplit rfl
      have hlast := List.singleton_inj.1 hevent
      rw [hlast]
      refine .inr ⟨hafter _ (by simp), before, after, hevents, fun other hother => ?_⟩
      exact hafter other (by simp [hother])
  · rintro (rfl | ⟨hleaves, before, after, rfl, hafter⟩)
    · exact ⟨events, [], rfl, by simp⟩
    · refine ⟨before, after ++ [event], by simp, fun other hother => ?_⟩
      rcases List.mem_append.1 hother with hother | hother
      · exact hafter other hother
      · rwa [List.mem_singleton.1 hother]

end CardEvent

namespace SimulatedCard

open CardEvent (Pending)

variable {card : SimulatedCard} {message : String}

lemma failNext_after_perform (card : SimulatedCard) (access : Access) :
    (registers.perform access card).2.failNext = none := by
  cases hnext : card.failNext with
  | some message => rw [perform_of_failNext hnext]
  | none =>
    rw [perform_of_awake hnext]
    exact (card.after_frame access).2.2.trans hnext

lemma failNext_afterCardEvent (card : SimulatedCard) (event : CardEvent) :
    (card.afterCardEvent event).failNext = some message ↔
      event = .control (.failNext message) ∨ event.LeavesFault ∧ card.failNext = some message := by
  cases event with
  | access access =>
    rw [afterCardEvent, failNext_after_perform]
    simp [CardEvent.LeavesFault]
  | control control =>
    cases control with
    | failNext message' => simp [afterCardEvent, SimulatedCard.control, CardEvent.LeavesFault]
    | _ => simp [afterCardEvent, SimulatedCard.control, CardEvent.LeavesFault, updateCounters]

/-- The fault that the card keeps for the next access is the one that is pending. -/
theorem failNext_iff_pending (hcard : card.failNext = none) (events : List CardEvent) :
    (card.afterCardEvents events).failNext = some message ↔ Pending message events := by
  unfold afterCardEvents
  induction events using List.reverseRecOn with
  | nil =>
    rw [List.foldl_nil, hcard]
    refine iff_of_false nofun ?_
    rintro ⟨before, after, hsplit, -⟩
    exact List.append_ne_nil_of_right_ne_nil before (List.cons_ne_nil _ _) hsplit.symm
  | append_singleton events event ih =>
    rw [List.foldl_append, List.foldl_cons, List.foldl_nil, failNext_afterCardEvent, ih,
      CardEvent.pending_append]

lemma replaysLog_afterCardEvents (completion : Completion) {events : List CardEvent}
    (hlog : .control .clearCommands ∉ events) :
    (afterCardEvents { completion } events).ReplaysLog where
  dataSource := by
    have hfresh : Setting.dataSource.Logged Command.dataSource? none { completion } := rfl
    exact hfresh.afterCardEvents Setting.dataSource_setBy hlog
  armed := by
    have hfresh : Setting.armed.Logged Command.armed? false { completion } := rfl
    exact hfresh.afterCardEvents Setting.armed_setBy hlog
  debugMode := by
    have hfresh : Setting.debugMode.Logged Command.debugMode? false { completion } := rfl
    exact hfresh.afterCardEvents Setting.debugMode_setBy hlog
  dataTaking := by
    have hfresh : Setting.dataTaking.Logged Command.dataTaking? false { completion } := rfl
    exact hfresh.afterCardEvents Setting.dataTaking_setBy hlog
  pushed link := by
    have hfresh : CountsLogged link { completion } := rfl
    rw [hfresh.afterCardEvents hlog]
    exact UInt32.toNat_ofNat'

/-- Unless the log is cleared, a card that starts afresh is as its log tells. An access fails exactly
if a fault is pending, with the message of that, and takes the fault away and does nothing else; so
the next one succeeds. An access that succeeds logs its command, or nothing if it is a read. -/
theorem card_replays_log (completion : Completion) (events : List CardEvent)
    (hlog : .control .clearCommands ∉ events) :
    let card := afterCardEvents { completion } events
    card.ReplaysLog ∧ ∀ access,
      (∀ message, Pending message events →
        registers.perform access card =
          (.error (.because message), { card with failNext := none }) ∧
        (Fault.because message).message = message) ∧
      ((∀ message, ¬Pending message events) →
        ∃ reply last, registers.perform access card = (.ok reply, last) ∧
          last.commands.toList = card.commands.toList ++ access.logged) ∧
      ∀ access', ∃ reply last,
        registers.perform access' (registers.perform access card).2 = (.ok reply, last) := by
  intro card
  have hpending {message : String} : card.failNext = some message ↔ Pending message events :=
    failNext_iff_pending rfl events
  refine ⟨replaysLog_afterCardEvents completion hlog, fun access => ⟨?_, ?_, ?_⟩⟩
  · intro message hmessage
    exact ⟨perform_of_failNext (hpending.2 hmessage) access, rfl⟩
  · intro hnone
    have hawake : card.failNext = none := by
      rw [Option.eq_none_iff_forall_ne_some]
      intro message hnext
      exact hnone message (hpending.1 hnext)
    exact ⟨_, _, perform_of_awake hawake access, card.commands_after access⟩
  · intro access'
    exact ⟨_, _, perform_of_awake (card.failNext_after_perform access) access'⟩

/-- A card that refused to be armed, and was reset between two descriptors, with a fault to come. -/
def strickenEvents : List CardEvent :=
  [.access (.write (.pushSuperpage ⟨3⟩ 1 0)), .control (.failNext "lost"),
    .control (.failNext "timeout"), .access (.write (.setBufferReady true)),
    .access (.write .enableDataTaking), .access (.write .resetCard),
    .access (.write (.pushSuperpage ⟨3⟩ 2 8192)), .control (.setArrived ⟨3⟩ 9),
    .access (.superpageCount ⟨3⟩), .control (.failNext "gone"), .control .completeAll]

/-- Of the two faults in a row, the first never comes. -/
theorem card_replays_log_stricken :
    let card := afterCardEvents { completion := .manual } strickenEvents
    card.ReplaysLog ∧
      card.commands = #[.pushSuperpage ⟨3⟩ 1 0, .enableDataTaking, .resetCard,
        .pushSuperpage ⟨3⟩ 2 8192] ∧
      card.armed = false ∧ card.dataTaking = true ∧ card.pushed ⟨3⟩ = 1 ∧
      registers.perform (.write (.setBufferReady true)) card =
        (.error (.because "gone"), { card with failNext := none }) := by
  intro card
  have hlog : .control .clearCommands ∉ strickenEvents := by decide
  obtain ⟨hreplays, hperform⟩ := card_replays_log .manual strickenEvents hlog
  have hpending : Pending "gone" strickenEvents := by
    refine ⟨strickenEvents.take 9, [.control .completeAll], rfl, ?_⟩
    simp [CardEvent.LeavesFault]
  exact ⟨hreplays, by decide, by decide, by decide, by decide,
    ((hperform _).1 "gone" hpending).1⟩

end SimulatedCard

end DmaReadout
