import VideoPlan.Proofs.Console.Run

/-!
# What becomes of the lines

What comes in divides into episodes: commands, submitted texts, and lines that an interrupt discards. What is behind
the last episode is gathered still. There is one such division (`Division.unique`), since an episode ends with the
first line or interrupt that can end it, and the loop does what the episodes ask for, one after the other.

A step either gathers a line, or none, or ends an episode (`step_cases`). The rest is an induction on what comes in,
in which the lines gathered so far stand before those to come (`exists_account`).

Main statement: `every_line_is_used_once`.
-/

namespace VideoPlan.Console

open Text

/-! ## Episodes -/

/-- What the loop takes notice of: a line that is not blank, without the blanks around it, or an interrupt. -/
inductive Event
  | line (text : String)
  | interrupt
deriving DecidableEq

/-- A text without the blanks around it. -/
def trimmed (text : String) : String :=
  String.ofList (trim text.toList)

/-- What the loop takes notice of in what comes in. -/
def Input.event? : Input → Option Event
  | .line text => if trimmed text = "" then none else some (.line (trimmed text))
  | .interrupt => some .interrupt

/-- The line is a command if it comes first. -/
def OpensCommand (line : String) : Prop :=
  line.toList.head? = some '\\'

instance (line : String) : Decidable (OpensCommand line) :=
  inferInstanceAs (Decidable (_ = _))

/-- The line completes what is gathered. -/
def EndsStatement (line : String) : Prop :=
  line.toList.getLast? = some ';'

instance (line : String) : Decidable (EndsStatement line) :=
  inferInstanceAs (Decidable (_ = _))

/-- Lines that are gathered while more are to come: none of them is blank or completes the others, and the first one
is no command. -/
structure Unfinished (lines : List String) : Prop where
  notBlank : ∀ line ∈ lines, line ≠ ""
  goesOn : ∀ line ∈ lines, ¬ EndsStatement line
  noCommand : ∀ line ∈ lines.head?, ¬ OpensCommand line

/-- Consecutive events that belong together. -/
inductive Episode
  | command (name : String)
  /-- A submitted text, which `last` completes. -/
  | submission (lines : List String) (last : String)
  /-- Lines that an interrupt discards, if there are any. -/
  | discarded (lines : List String)
deriving DecidableEq

namespace Episode

/-- The command that ends the loop. -/
def quit : Episode :=
  .command "\\q"

/-- The lines of an episode before its last event. -/
def lines : Episode → List String
  | .command _ => []
  | .submission lines _ => lines
  | .discarded lines => lines

/-- The event that ends an episode. -/
def last : Episode → Event
  | .command name => .line name
  | .submission _ last => .line last
  | .discarded _ => .interrupt

/-- The events of an episode. -/
def events (episode : Episode) : List Event :=
  episode.lines.map .line ++ [episode.last]

/-- What may be an episode: a command stands alone and starts with a backslash, and of the lines of a submitted text
the last one, and no other one, ends with a semicolon. -/
def WellFormed : Episode → Prop
  | .command name => OpensCommand name
  | .submission lines last => Unfinished lines ∧ EndsStatement last ∧ (lines = [] → ¬ OpensCommand last)
  | .discarded lines => Unfinished lines

/-- Does what an episode asks for in a state where nothing is gathered. The command that ends the loop writes
nothing. -/
def perform (host : Host) (state : State) : Episode → List Output × State
  | .command name => ((runCommand? state.catalog name).getD [], state)
  | .submission lines last => submit host ("\n".intercalate (lines ++ [last])) state
  | .discarded _ => ([.print "^C\n"], state)

/-- Does what episodes ask for, one after the other. -/
def performAll (host : Host) (state : State) : List Episode → List Output × State
  | [] => ([], state)
  | episode :: episodes =>
    let performed := episode.perform host state
    let rest := performAll host performed.2 episodes
    (performed.1 ++ rest.1, rest.2)

end Episode

/-- The division of what comes in: its events are those of the episodes, in order, and behind them the lines that are
still gathered. -/
structure Division (inputs : List Input) (episodes : List Episode) (pending : List String) : Prop where
  events : inputs.filterMap Input.event? = episodes.flatMap Episode.events ++ pending.map .line
  wellFormed : ∀ episode ∈ episodes, episode.WellFormed
  unfinished : Unfinished pending

/-- The state with these lines gathered. -/
def State.holding (state : State) (lines : List String) : State :=
  { state with gathered := "\n".intercalate lines }

/-! ## There is one division -/

theorem unfinished_nil : Unfinished [] :=
  ⟨nofun, nofun, nofun⟩

theorem map_line_inj {lines lines' : List String} : lines.map Event.line = lines'.map .line ↔ lines = lines' :=
  List.map_inj_right fun _ _ => Event.line.inj

/-- Lines that are still gathered do not start with an episode, since the event that ends it is none of them. -/
theorem Episode.WellFormed.not_unfinished {episode : Episode} (wellFormed : episode.WellFormed)
    {lines : List String} (unfinished : Unfinished lines) (behind : List Event) :
    episode.lines.map .line ++ episode.last :: behind ≠ lines.map Event.line := by
  intro same
  obtain ⟨before, rest, rfl, front, back⟩ := List.append_eq_map_iff.mp same
  obtain rfl := map_line_inj.mp front
  obtain ⟨line, rest, rfl, ends, -⟩ := List.map_eq_cons_iff.mp back
  cases episode with
  | command name =>
    obtain rfl := Event.line.inj ends
    exact unfinished.noCommand line rfl wellFormed
  | submission lines last =>
    obtain rfl := Event.line.inj ends
    exact unfinished.goesOn line (by simp) wellFormed.2.1
  | discarded lines => cases ends

theorem Episode.WellFormed.lines_unfinished {episode : Episode} (wellFormed : episode.WellFormed) :
    Unfinished episode.lines := by
  cases episode with
  | command name => exact unfinished_nil
  | submission lines last => exact wellFormed.1
  | discarded lines => exact wellFormed

/-- The lines of an episode and the event that ends it tell what it is. -/
theorem Episode.WellFormed.eq {episode episode' : Episode} (wellFormed : episode.WellFormed)
    (wellFormed' : episode'.WellFormed) (same : episode.lines = episode'.lines)
    (ends : episode.last = episode'.last) : episode = episode' := by
  cases episode with
  | command name =>
    cases episode' with
    | command name' => rw [Event.line.inj ends]
    | submission lines' last' =>
      obtain rfl := Event.line.inj ends
      exact absurd wellFormed (wellFormed'.2.2 same.symm)
    | discarded lines' => cases ends
  | submission lines last =>
    cases episode' with
    | command name' =>
      obtain rfl := Event.line.inj ends
      exact absurd wellFormed' (wellFormed.2.2 same)
    | submission lines' last' => rw [Event.line.inj ends, show lines = lines' from same]
    | discarded lines' => cases ends
  | discarded lines =>
    cases episode' with
    | command name' => cases ends
    | submission lines' last' => cases ends
    | discarded lines' => rw [show lines = lines' from same]

/-- The first episode of a sequence of events is determined: neither of two can end before the other one does. -/
theorem Episode.WellFormed.unique {episode episode' : Episode} (wellFormed : episode.WellFormed)
    (wellFormed' : episode'.WellFormed) {behind behind' : List Event}
    (same : episode.events ++ behind = episode'.events ++ behind') : episode = episode' ∧ behind = behind' := by
  unfold events at same
  rw [List.append_assoc, List.append_assoc, List.singleton_append, List.singleton_append] at same
  have lines : episode.lines = episode'.lines := by
    -- of two that differ in length, the shorter one ends with an event among the lines of the other one
    rcases List.append_eq_append_iff.mp same with ⟨more, longer, rest⟩ | ⟨more, longer, rest⟩
    · cases more with
      | nil =>
        rw [List.append_nil] at longer
        exact (map_line_inj.mp longer).symm
      | cons event more =>
        obtain ⟨rfl, -⟩ := List.cons.inj rest
        exact absurd longer.symm (wellFormed.not_unfinished wellFormed'.lines_unfinished more)
    · cases more with
      | nil =>
        rw [List.append_nil] at longer
        exact map_line_inj.mp longer
      | cons event more =>
        obtain ⟨rfl, -⟩ := List.cons.inj rest
        exact absurd longer.symm (wellFormed'.not_unfinished wellFormed.lines_unfinished more)
  rw [lines] at same
  obtain ⟨last, rest⟩ := List.cons.inj (List.append_cancel_left same)
  exact ⟨wellFormed.eq wellFormed' lines last, rest⟩

theorem eq_of_events {episodes episodes' : List Episode} {pending pending' : List String}
    (wellFormed : ∀ episode ∈ episodes, episode.WellFormed)
    (wellFormed' : ∀ episode ∈ episodes', episode.WellFormed)
    (unfinished : Unfinished pending) (unfinished' : Unfinished pending')
    (same : episodes.flatMap Episode.events ++ pending.map .line =
      episodes'.flatMap Episode.events ++ pending'.map .line) :
    episodes = episodes' ∧ pending = pending' := by
  induction episodes generalizing episodes' with
  | nil =>
    cases episodes' with
    | nil => exact ⟨rfl, map_line_inj.mp same⟩
    | cons episode' episodes' =>
      obtain ⟨first', -⟩ := List.forall_mem_cons.mp wellFormed'
      -- no episode is to be found in the pending lines
      simp only [List.flatMap_cons, Episode.events, List.append_assoc, List.singleton_append] at same
      exact absurd same.symm (first'.not_unfinished unfinished _)
  | cons episode episodes ih =>
    obtain ⟨first, others⟩ := List.forall_mem_cons.mp wellFormed
    cases episodes' with
    | nil =>
      simp only [List.flatMap_cons, Episode.events, List.append_assoc, List.singleton_append] at same
      exact absurd same (first.not_unfinished unfinished' _)
    | cons episode' episodes' =>
      obtain ⟨first', others'⟩ := List.forall_mem_cons.mp wellFormed'
      rw [List.flatMap_cons, List.flatMap_cons, List.append_assoc, List.append_assoc] at same
      obtain ⟨rfl, behind⟩ := first.unique first' same
      obtain ⟨rfl, rfl⟩ := ih others others' behind
      exact ⟨rfl, rfl⟩

theorem Division.unique {inputs : List Input} {episodes episodes' : List Episode} {pending pending' : List String}
    (division : Division inputs episodes pending) (division' : Division inputs episodes' pending') :
    episodes' = episodes ∧ pending' = pending :=
  eq_of_events division'.wellFormed division.wellFormed division'.unfinished division.unfinished
    (division'.events.symm.trans division.events)

/-! ## Steps -/

theorem intercalate_isEmpty {lines : List String} (notBlank : ∀ line ∈ lines, line ≠ "") :
    ("\n".intercalate lines).isEmpty = lines.isEmpty := by
  cases lines with
  | nil => rfl
  | cons line lines =>
    have first : line ≠ "" := notBlank line List.mem_cons_self
    rw [List.isEmpty_cons, Bool.eq_false_iff, ne_eq, String.isEmpty_iff]
    intro empty
    cases lines with
    | nil =>
      rw [String.intercalate_singleton] at empty
      exact first empty
    | cons next lines =>
      rw [String.intercalate_cons_cons, String.append_eq_empty_iff, String.append_eq_empty_iff] at empty
      exact first empty.1.1

theorem intercalate_concat {lines : List String} (notBlank : ∀ line ∈ lines, line ≠ "") (line : String) :
    (if ("\n".intercalate lines).isEmpty then line else "\n".intercalate lines ++ "\n" ++ line) =
      "\n".intercalate (lines ++ [line]) := by
  rw [intercalate_isEmpty notBlank]
  cases lines with
  | nil => exact String.intercalate_singleton.symm
  | cons first lines =>
    rw [String.intercalate_append_of_ne_nil (List.cons_ne_nil _ _) (List.cons_ne_nil _ _),
      String.intercalate_singleton]
    rfl

theorem Unfinished.concat {pending : List String} (unfinished : Unfinished pending) {line : String}
    (notBlank : line ≠ "") (goesOn : ¬ EndsStatement line) (noCommand : pending = [] → ¬ OpensCommand line) :
    Unfinished (pending ++ [line]) := by
  refine ⟨?_, ?_, ?_⟩
  · exact List.forall_mem_append.mpr ⟨unfinished.notBlank, List.forall_mem_singleton.mpr notBlank⟩
  · exact List.forall_mem_append.mpr ⟨unfinished.goesOn, List.forall_mem_singleton.mpr goesOn⟩
  · intro first isFirst
    cases pending with
    | nil =>
      obtain rfl := Option.some.inj isFirst
      exact noCommand rfl
    | cons other pending => exact unfinished.noCommand first isFirst

theorem runCommand?_eq_none_iff {catalog : Catalog} {name : String} :
    runCommand? catalog name = none ↔ name = "\\q" := by
  unfold runCommand?
  split <;> simp_all

theorem gather_eq (gathered text : String) :
    gather gathered text =
      if trimmed text = "" then (.nothing, gathered)
      else if gathered = "" ∧ OpensCommand (trimmed text) then (.command (trimmed text), gathered)
      else
        let joined := if gathered.isEmpty then trimmed text else gathered ++ "\n" ++ trimmed text
        if EndsStatement (trimmed text) then (.submit joined, "") else (.nothing, joined) := by
  have blank : (trim text.toList).isEmpty = true ↔ trimmed text = "" := by
    rw [List.isEmpty_iff, ← String.toList_eq_nil_iff, trimmed, String.toList_ofList]
  have first : gathered.isEmpty = true ∧ (trim text.toList).head? = some '\\' ↔
      gathered = "" ∧ OpensCommand (trimmed text) := by
    rw [String.isEmpty_iff, OpensCommand, trimmed, String.toList_ofList]
  have last : (trim text.toList).getLast? = some ';' ↔ EndsStatement (trimmed text) := by
    rw [EndsStatement, trimmed, String.toList_ofList]
  simp only [gather, blank, Bool.and_eq_true, decide_eq_true_eq, first, last]
  rfl

/-- A line that is not blank and no command goes behind the gathered ones, and may complete them. -/
theorem gather_line {pending : List String} {text : String} (notBlank : ∀ line ∈ pending, line ≠ "")
    (visible : trimmed text ≠ "") (noCommand : pending = [] → ¬ OpensCommand (trimmed text)) :
    gather ("\n".intercalate pending) text =
      if EndsStatement (trimmed text) then (.submit ("\n".intercalate (pending ++ [trimmed text])), "")
      else (.nothing, "\n".intercalate (pending ++ [trimmed text])) := by
  have noOpening : ¬ ("\n".intercalate pending = "" ∧ OpensCommand (trimmed text)) := by
    rintro ⟨empty, opens⟩
    rw [← String.isEmpty_iff, intercalate_isEmpty notBlank, List.isEmpty_iff] at empty
    exact noCommand empty opens
  rw [gather_eq, if_neg visible, if_neg noOpening]
  simp only [intercalate_concat notBlank]

/-- What a step does with what comes in: either nothing is done yet, and a line that is not blank is gathered behind
the others, or it ends an episode, and what this asks for is done. -/
theorem step_cases (host : Host) {state : State} (idle : state.gathered = "") {pending : List String}
    (unfinished : Unfinished pending) (input : Input) :
    (∃ pending', Unfinished pending' ∧ pending'.map .line = pending.map .line ++ input.event?.toList ∧
      step host (state.holding pending) input = .goOn [] (state.holding pending')) ∨
    ∃ episode : Episode, episode.WellFormed ∧ episode.events = pending.map .line ++ input.event?.toList ∧
      step host (state.holding pending) input =
        if episode = .quit then .stop else .goOn (episode.perform host state).1 (episode.perform host state).2 := by
  obtain ⟨catalog, gathered, tables⟩ := state
  obtain rfl : gathered = "" := idle
  cases input with
  | interrupt => exact .inr ⟨.discarded pending, unfinished, rfl, rfl⟩
  | line text =>
    by_cases visible : trimmed text = ""
    · refine .inl ⟨pending, unfinished, ?_, ?_⟩
      · rw [Input.event?, if_pos visible]
        exact (List.append_nil _).symm
      · simp only [step, gather_eq, if_pos visible]
    · have event : (Input.line text).event? = some (.line (trimmed text)) := if_neg visible
      rw [event]
      by_cases command : pending = [] ∧ OpensCommand (trimmed text)
      · -- a command ends an episode of its own, and the loop if it is the one that does
        obtain ⟨rfl, opens⟩ := command
        refine .inr ⟨.command (trimmed text), opens, rfl, ?_⟩
        have asked : gather "" text = (.command (trimmed text), "") := by
          rw [gather_eq, if_neg visible, if_pos ⟨rfl, opens⟩]
        show step host ⟨catalog, "", tables⟩ (.line text) = _
        by_cases quits : Episode.command (trimmed text) = .quit
        · have name : trimmed text = "\\q" := Episode.command.inj quits
          rw [if_pos quits]
          simp only [step, asked, name]
          rfl
        · have name : trimmed text ≠ "\\q" := fun same => quits (congrArg Episode.command same)
          have runs : runCommand? catalog (trimmed text) ≠ none := mt runCommand?_eq_none_iff.mp name
          obtain ⟨outputs, ran⟩ := Option.ne_none_iff_exists'.mp runs
          rw [if_neg quits]
          simp only [step, asked, ran, Episode.perform]
          rfl
      · have noCommand : pending = [] → ¬ OpensCommand (trimmed text) := by
          intro none opens
          exact command ⟨none, opens⟩
        have gathers := gather_line unfinished.notBlank visible noCommand
        by_cases ends : EndsStatement (trimmed text)
        · rw [if_pos ends] at gathers
          refine .inr ⟨.submission pending (trimmed text), ⟨unfinished, ends, noCommand⟩, rfl, ?_⟩
          simp only [step, State.holding, gathers]
          rfl
        · rw [if_neg ends] at gathers
          refine .inl ⟨pending ++ [trimmed text], unfinished.concat visible ends noCommand, List.map_append, ?_⟩
          simp only [step, State.holding, gathers]

/-- What an episode asks for leaves nothing gathered. -/
theorem Episode.perform_gathered (host : Host) {state : State} (idle : state.gathered = "") (episode : Episode) :
    (episode.perform host state).2.gathered = "" := by
  cases episode with
  | command name => exact idle
  | submission lines last =>
    show (submit host _ state).2.gathered = ""
    unfold submit
    split
    · exact idle
    · exact idle
  | discarded lines => exact idle

/-! ## Runs -/

/-- How a run that starts with gathered lines is accounted for. -/
structure Account (host : Host) (state : State) (held : List String) (inputs : List Input) (episodes : List Episode)
    (pending : List String) : Prop where
  events : held.map .line ++ inputs.filterMap Input.event? =
    episodes.flatMap Episode.events ++ pending.map .line
  wellFormed : ∀ episode ∈ episodes, episode.WellFormed
  unfinished : Unfinished pending
  goesOn : .quit ∉ episodes →
    run host (state.holding held) inputs = (Episode.performAll host state episodes).1 ∧
      after host (state.holding held) inputs = some ((Episode.performAll host state episodes).2.holding pending)
  stops : ∀ before behind, episodes = before ++ .quit :: behind → .quit ∉ before →
    run host (state.holding held) inputs = (Episode.performAll host state before).1 ∧
      after host (state.holding held) inputs = none

section Account

variable {host : Host} {state : State} {held held' pending : List String} {input : Input} {inputs : List Input}
  {ended : Episode} {episodes : List Episode}

theorem filterMap_event (input : Input) (inputs : List Input) :
    (input :: inputs).filterMap Input.event? = input.event?.toList ++ inputs.filterMap Input.event? := by
  cases event : input.event? with
  | none => exact List.filterMap_cons_none event
  | some _ => exact List.filterMap_cons_some event

theorem Account.nil (host : Host) (state : State) (unfinished : Unfinished held) :
    Account host state held [] [] held where
  events := List.append_nil _
  wellFormed := nofun
  unfinished := unfinished
  goesOn _ := ⟨rfl, rfl⟩
  stops before _ split := absurd split (by simp)

/-- What comes in may only be gathered. -/
theorem Account.gather (account : Account host state held' inputs episodes pending)
    (events : held'.map .line = held.map .line ++ input.event?.toList)
    (taken : step host (state.holding held) input = .goOn [] (state.holding held')) :
    Account host state held (input :: inputs) episodes pending where
  events := by rw [filterMap_event, ← List.append_assoc, ← events, account.events]
  wellFormed := account.wellFormed
  unfinished := account.unfinished
  goesOn stays := by
    rw [run_goOn taken, after_goOn taken]
    exact account.goesOn stays
  stops before behind split outside := by
    rw [run_goOn taken, after_goOn taken]
    exact account.stops before behind split outside

theorem State.holding_nil {state : State} (idle : state.gathered = "") : state.holding [] = state := by
  obtain ⟨catalog, gathered, tables⟩ := state
  obtain rfl : gathered = "" := idle
  rfl

/-- What comes in may end an episode, behind which nothing is held. -/
theorem Account.cons (account : Account host (ended.perform host state).2 [] inputs episodes pending)
    (idle : (ended.perform host state).2.gathered = "") (wellFormed : ended.WellFormed)
    (events : ended.events = held.map .line ++ input.event?.toList)
    (taken : step host (state.holding held) input =
      if ended = .quit then .stop else .goOn (ended.perform host state).1 (ended.perform host state).2) :
    Account host state held (input :: inputs) (ended :: episodes) pending where
  events := by
    have others := account.events
    rw [List.map_nil, List.nil_append] at others
    rw [filterMap_event, ← List.append_assoc, ← events, others, List.flatMap_cons, List.append_assoc]
  wellFormed := List.forall_mem_cons.mpr ⟨wellFormed, account.wellFormed⟩
  unfinished := account.unfinished
  goesOn stays := by
    obtain ⟨goesOn, others⟩ := not_or.mp (mt List.mem_cons.mpr stays)
    rw [if_neg (Ne.symm goesOn)] at taken
    obtain ⟨outputs, reached⟩ := account.goesOn others
    rw [State.holding_nil idle] at outputs reached
    rw [run_goOn taken, after_goOn taken, outputs, reached]
    exact ⟨rfl, rfl⟩
  stops before behind split outside := by
    -- the command that ends the loop is this episode, or comes later
    cases before with
    | nil =>
      obtain ⟨quits, -⟩ := List.cons.inj split
      rw [if_pos quits] at taken
      exact ⟨run_stop taken inputs, after_stop taken inputs⟩
    | cons first before =>
      obtain ⟨rfl, rest⟩ := List.cons.inj split
      obtain ⟨goesOn, others⟩ := not_or.mp (mt List.mem_cons.mpr outside)
      rw [if_neg (Ne.symm goesOn)] at taken
      obtain ⟨outputs, stopped⟩ := account.stops before behind rest others
      rw [State.holding_nil idle] at outputs stopped
      rw [run_goOn taken, after_goOn taken, outputs, stopped]
      exact ⟨rfl, rfl⟩

/-- Every run that starts with gathered lines is accounted for, by induction on what comes in. -/
theorem exists_account (host : Host) (inputs : List Input) (idle : state.gathered = "")
    (unfinished : Unfinished held) : ∃ episodes pending, Account host state held inputs episodes pending := by
  induction inputs generalizing state held with
  | nil => exact ⟨[], held, .nil host state unfinished⟩
  | cons input inputs ih =>
    rcases step_cases host idle unfinished input with
      ⟨held', unfinished', events, taken⟩ | ⟨ended, wellFormed, events, taken⟩
    · obtain ⟨episodes, pending, account⟩ := ih idle unfinished'
      exact ⟨episodes, pending, account.gather events taken⟩
    · have idle' := ended.perform_gathered host idle
      obtain ⟨episodes, pending, account⟩ := ih idle' unfinished_nil
      exact ⟨ended :: episodes, pending, account.cons idle' wellFormed events taken⟩

end Account

/-- Each line that is not blank is used once, and in order: as a command, in a submitted text, in lines that an
interrupt discards, or it is gathered still; and there is only one way to divide what comes in like this. The loop
does what the episodes ask for, and then waits with the pending lines gathered; it stops at the first command that
ends it, which is no part of a statement. -/
theorem every_line_is_used_once (host : Host) (catalog : Catalog) (inputs : List Input) :
    ∃ episodes pending, Division inputs episodes pending ∧
      (∀ episodes' pending', Division inputs episodes' pending' → episodes' = episodes ∧ pending' = pending) ∧
      (.quit ∉ episodes →
        run host (.start catalog) inputs = (Episode.performAll host (.start catalog) episodes).1 ∧
          after host (.start catalog) inputs =
            some ((Episode.performAll host (.start catalog) episodes).2.holding pending)) ∧
      ∀ before behind, episodes = before ++ .quit :: behind → .quit ∉ before →
        run host (.start catalog) inputs = (Episode.performAll host (.start catalog) before).1 ∧
          after host (.start catalog) inputs = none := by
  have idle : (State.start catalog).gathered = "" := rfl
  obtain ⟨episodes, pending, account⟩ := exists_account host inputs idle unfinished_nil
  have division : Division inputs episodes pending := ⟨account.events, account.wellFormed, account.unfinished⟩
  exact ⟨episodes, pending, division, fun _ _ => division.unique, account.goesOn, account.stops⟩

/-- Behind a line that is gathered nothing is a command. -/
example : (after {} (.start .empty) [.line " SELECT 1", .line "", .line "\\q"]).map (·.gathered) =
    some "SELECT 1\n\\q" := by decide +kernel

end VideoPlan.Console
