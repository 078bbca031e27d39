import Mathlib.Logic.Function.Basic
import LiveLog.Connection.Table
import LiveLog.Proofs.Connection.Run

/-! All that may happen among the connections of a host, in any order. Instances are connected and
disconnected; between any two of these acts the task of any connection, in use or closed, takes a step,
and the events it sent are taken. An act that closes an instance closes one connection, and a step is a
step of one connection, so each goes the way it would go alone under the moves addressed to it. -/
namespace LiveLog

/-- Without the entries of a key nothing is found under it, and under any other key what was found
before. -/
theorem lookup_without {κ ν : Type} [DecidableEq κ] (key : κ) (entries : List (κ × ν)) (other : κ) :
    (entries.filter (·.1 ≠ key)).lookup other =
      if other = key then none else entries.lookup other := by
  induction entries with
  | nil => simp
  | cons entry rest ih =>
    obtain ⟨name, value⟩ := entry
    by_cases same : name = key
    · rw [List.filter_cons_of_neg (by simp [same]), ih, same]
      split
      · rfl
      · rename_i differs
        rw [List.lookup_cons, beq_false_of_ne differs]
    · rw [List.filter_cons_of_pos (by simpa using same), List.lookup_cons, List.lookup_cons, ih]
      by_cases found : other = name
      · simp [found, same]
      · simp [beq_false_of_ne found]

namespace Connections

variable (connections : Connections) (id url : String) (now : Nat)

/-- The registry forgets an instance that was disconnected, and no other. -/
theorem registry_disconnect :
    (connections.disconnect id now).1.registry = connections.registry.filter (·.1 ≠ id) := by
  cases found : connections.number? id with
  | none =>
    simp only [disconnect, found]
    refine (List.filter_eq_self.mpr fun entry member => ?_).symm
    have other := List.lookup_eq_none_iff.mp found entry member
    exact decide_eq_true fun same => by simp [same] at other
  | some used => simp [disconnect, found, modify]

/-- An instance that was disconnected has no connection in use. The others keep theirs. -/
theorem number?_disconnect (other : String) :
    (connections.disconnect id now).1.number? other =
      if other = id then none else connections.number? other := by
  rw [number?, registry_disconnect, lookup_without]
  rfl

/-- Disconnecting an instance closes its connection and no other. -/
theorem all_disconnect (number : Nat) :
    (connections.disconnect id now).1.all[number]? =
      if connections.number? id = some number then connections.all[number]?.map (·.close now)
      else connections.all[number]? := by
  cases found : connections.number? id with
  | none => simp [disconnect, found]
  | some used => simp [disconnect, found, modify, Array.getElem?_modify]

@[simp] theorem size_disconnect :
    (connections.disconnect id now).1.all.size = connections.all.size := by
  cases found : connections.number? id with
  | none => simp [disconnect, found]
  | some used => simp [disconnect, found, modify]

@[simp] theorem settings_disconnect :
    (connections.disconnect id now).1.settings = connections.settings := by
  cases found : connections.number? id with
  | none => simp [disconnect, found]
  | some used => simp [disconnect, found, modify]

end Connections

open Connection (Move TaskStep)

/-- The connections of a host, and beside them the past of each. -/
structure Traffic where
  table : Connections
  past : Nat → Past

namespace Traffic

/-- What happens among the connections. -/
inductive Act where
  | connect (id url : String) (now : Nat)
  | disconnect (id : String) (now : Nat)
  /-- The task of a connection takes a step. -/
  | task (number : Nat) (step : TaskStep)
  /-- The events a connection sent are taken from its channel. -/
  | take (number : Nat)

/-- Nothing has happened yet. -/
def start (settings : StreamSettings) : Traffic := ⟨.new settings, fun _ => {}⟩

/-- The past of all connections after a move of one. -/
def noted (traffic : Traffic) (number : Nat) (move : Move) : Nat → Past :=
  match traffic.table.all[number]? with
  | none => traffic.past
  | some connection =>
    Function.update traffic.past number ((traffic.past number).after connection move)

/-- The connections after a move of one. -/
def moved (traffic : Traffic) (number : Nat) (move : Move) : Traffic where
  table := traffic.table.modify number (·.after traffic.table.settings move)
  past := traffic.noted number move

/-- The connections after an act. One that was just made has no past. -/
def after (traffic : Traffic) : Act → Traffic
  | .connect id url now =>
    let (table, number) := traffic.table.connect id url now
    ⟨table, Function.update traffic.past number {}⟩
  | .disconnect id now => ⟨(traffic.table.disconnect id now).1, traffic.past⟩
  | .task number step => traffic.moved number (.task step)
  | .take number => ⟨(traffic.table.take number).1, traffic.noted number .take⟩

/-- The connections after acts in their order. -/
def run (traffic : Traffic) (acts : List Act) : Traffic := acts.foldl after traffic

/-- The connection of a number, with its past. -/
def watched? (traffic : Traffic) (number : Nat) : Option Watched :=
  traffic.table.all[number]?.map (⟨·, traffic.past number⟩)

/-- All events a connection has sent so far, whether they were taken or not. -/
def sent (traffic : Traffic) (number : Nat) : List Sent :=
  (traffic.watched? number).elim [] Watched.sent

/-- The move an act asks of the connection with a number, made for an instance. To disconnect the
instance, or to connect it anew, is to close that connection. -/
def moveOf? (id : String) (number : Nat) : Act → Option Move
  | .connect other _ now => if other = id then some (.close now) else none
  | .disconnect other now => if other = id then some (.close now) else none
  | .task other step => if other = number then some (.task step) else none
  | .take other => if other = number then some .take else none

variable {traffic : Traffic} {watched : Watched} {id : String} {number : Nat}

/-! ### The table and the connections after one act -/

/-- The connections and a new one, in use for an instance that has none. -/
def placed (traffic : Traffic) (id url : String) : Traffic where
  table :=
    { traffic.table with
      all := traffic.table.all.push (Connection.new url)
      registry := traffic.table.registry ++ [(id, traffic.table.all.size)] }
  past := Function.update traffic.past traffic.table.all.size {}

/-- To connect an instance is to disconnect it and to place a new connection. -/
theorem after_connect (traffic : Traffic) (id url : String) (now : Nat) :
    traffic.after (.connect id url now) = (traffic.after (.disconnect id now)).placed id url := rfl

/-- A connection that is made is registered last, under the next number. -/
theorem registry_connect (traffic : Traffic) (id url : String) (now : Nat) :
    (traffic.after (.connect id url now)).table.registry =
      traffic.table.registry.filter (·.1 ≠ id) ++ [(id, traffic.table.all.size)] := by
  simp only [after, Connections.connect, Connections.registry_disconnect, Connections.size_disconnect]

theorem size_connect (traffic : Traffic) (id url : String) (now : Nat) :
    (traffic.after (.connect id url now)).table.all.size = traffic.table.all.size + 1 := by
  simp only [after, Connections.connect, Array.size_push, Connections.size_disconnect]

/-- To take the events of a connection is a move of it. -/
theorem after_take (traffic : Traffic) (number : Nat) :
    traffic.after (.take number) = traffic.moved number .take := rfl

/-- No act changes the settings. -/
@[simp] theorem settings_after (traffic : Traffic) (act : Act) :
    (traffic.after act).table.settings = traffic.table.settings := by
  cases act with
  | connect id url now => exact traffic.table.settings_disconnect id now
  | disconnect id now => exact traffic.table.settings_disconnect id now
  | task number step => rfl
  | take number => rfl

@[simp] theorem settings_run (traffic : Traffic) (acts : List Act) :
    (traffic.run acts).table.settings = traffic.table.settings := by
  induction acts generalizing traffic with
  | nil => rfl
  | cons act acts ih => exact (ih (traffic.after act)).trans (settings_after traffic act)

private theorem noted_elsewhere (differs : number ≠ other) (move : Move) :
    traffic.noted number move other = traffic.past other := by
  cases found : traffic.table.all[number]? with
  | none => simp [noted, found]
  | some connection => simp [noted, found, Function.update_of_ne (Ne.symm differs)]

theorem watched?_connection (present : traffic.watched? number = some watched) :
    traffic.table.all[number]? = some watched.connection := by
  obtain ⟨connection, found, rfl⟩ := Option.map_eq_some_iff.mp present
  exact found

theorem watched?_past (present : traffic.watched? number = some watched) :
    traffic.past number = watched.past := by
  obtain ⟨connection, -, rfl⟩ := Option.map_eq_some_iff.mp present
  rfl

/-- One connection moves, with its past. The others are the same. -/
theorem watched?_moved (traffic : Traffic) (number other : Nat) (move : Move) :
    (traffic.moved number move).watched? other =
      if number = other then (traffic.watched? other).map (·.after traffic.table.settings move)
      else traffic.watched? other := by
  simp only [watched?, moved, Connections.modify, Array.getElem?_modify]
  by_cases same : number = other
  · subst same
    cases found : traffic.table.all[number]? with
    | none => simp
    | some connection => simp [noted, found, Watched.after]
  · simp only [if_neg same, noted_elsewhere same]

/-- Disconnecting an instance closes the connection it has in use. -/
theorem watched?_disconnect (traffic : Traffic) (id : String) (now number : Nat) :
    (traffic.after (.disconnect id now)).watched? number =
      if traffic.table.number? id = some number then
        (traffic.watched? number).map (·.after traffic.table.settings (.close now))
      else traffic.watched? number := by
  simp only [watched?, after, Connections.all_disconnect]
  split
  · cases traffic.table.all[number]? <;> rfl
  · rfl

/-- A new connection is fresh. The others are the same. -/
theorem watched?_placed (traffic : Traffic) (id url : String) (number : Nat) :
    (traffic.placed id url).watched? number =
      if number = traffic.table.all.size then some (.fresh url) else traffic.watched? number := by
  simp only [watched?, placed, Array.getElem?_push]
  split
  · rename_i same
    rw [same, Function.update_self]
    rfl
  · rename_i differs
    rw [Function.update_of_ne differs]

theorem number?_placed (free : traffic.table.number? id = none) (url other : String) :
    (traffic.placed id url).table.number? other =
      if other = id then some traffic.table.all.size else traffic.table.number? other := by
  simp only [Connections.number?] at free
  simp only [placed, Connections.number?, List.lookup_append]
  by_cases same : other = id
  · simp [same, free]
  · simp [same, List.lookup_cons, beq_false_of_ne same]

/-! ### One connection among many -/

/-- A connection was made for an instance. No other instance uses it, and as soon as this one does not
use it either, it is closed and holds no records. -/
structure Serves (traffic : Traffic) (id : String) (number : Nat) (watched : Watched) : Prop where
  present : traffic.watched? number = some watched
  alone : ∀ other, traffic.table.number? other = some number → other = id
  out_of_use : traffic.table.number? id ≠ some number →
    watched.connection.closed = true ∧ watched.connection.pending = []

theorem Serves.in_range (serves : traffic.Serves id number watched) :
    number < traffic.table.all.size :=
  (Array.getElem?_eq_some_iff.mp (watched?_connection serves.present)).1

private theorem serves_moved (serves : traffic.Serves id number watched) (move : Move) :
    (traffic.moved number move).Serves id number (watched.after traffic.table.settings move) where
  present := by rw [watched?_moved, if_pos rfl, serves.present]; rfl
  alone := serves.alone
  out_of_use unused := by
    obtain ⟨closed, emptied⟩ := serves.out_of_use unused
    have ended := Watched.ended_after traffic.table.settings ⟨closed, emptied, rfl, rfl⟩ move
    exact ⟨ended.closed, ended.emptied⟩

private theorem serves_aside (serves : traffic.Serves id number watched) (differs : other ≠ number)
    (move : Move) :
    (traffic.moved other move).Serves id number watched where
  present := by rw [watched?_moved, if_neg differs, serves.present]
  alone := serves.alone
  out_of_use := serves.out_of_use

private theorem serves_disconnect (serves : traffic.Serves id number watched) (now : Nat) :
    (traffic.after (.disconnect id now)).Serves id number
      (watched.after traffic.table.settings (.close now)) where
  present := by
    rw [watched?_disconnect, serves.present]
    split
    · rfl
    · rename_i unused
      -- The table passes it over, and closing what was closed before changes nothing.
      obtain ⟨closed, emptied⟩ := serves.out_of_use unused
      exact congrArg (fun connection => some (Watched.mk connection watched.past))
        (Connection.close_again closed emptied).symm
  alone other used := by
    simp only [after, Connections.number?_disconnect] at used
    split at used
    · cases used
    · exact serves.alone other used
  out_of_use _ := ⟨rfl, rfl⟩

private theorem serves_disconnect_aside (serves : traffic.Serves id number watched)
    (differs : other ≠ id) (now : Nat) :
    (traffic.after (.disconnect other now)).Serves id number watched where
  present := by
    have unused : traffic.table.number? other ≠ some number :=
      fun used => differs (serves.alone other used)
    rw [watched?_disconnect, if_neg unused, serves.present]
  alone another used := by
    simp only [after, Connections.number?_disconnect] at used
    split at used
    · cases used
    · exact serves.alone another used
  out_of_use unused := by
    simp only [after, Connections.number?_disconnect, if_neg differs.symm] at unused
    exact serves.out_of_use unused

private theorem serves_placed (serves : traffic.Serves id number watched)
    (free : traffic.table.number? other = none) (url : String) :
    (traffic.placed other url).Serves id number watched where
  present := by
    rw [watched?_placed, if_neg (Nat.ne_of_lt serves.in_range), serves.present]
  alone another used := by
    rw [number?_placed free] at used
    split at used
    · exact absurd (Option.some.inj used).symm (Nat.ne_of_lt serves.in_range)
    · exact serves.alone another used
  out_of_use unused := by
    rw [number?_placed free] at unused
    by_cases same : id = other
    · exact serves.out_of_use (by simp [same, free])
    · rw [if_neg same] at unused
      exact serves.out_of_use unused

theorem disconnected (traffic : Traffic) (id : String) (now : Nat) :
    (traffic.after (.disconnect id now)).table.number? id = none := by
  simp [after, Connections.number?_disconnect]

/-- Whatever happens among all connections, one of them makes the move asked of it, or none. -/
theorem serves_after (serves : traffic.Serves id number watched) (act : Act) :
    (traffic.after act).Serves id number
      ((moveOf? id number act).elim watched (watched.after traffic.table.settings)) := by
  cases act with
  | disconnect other now =>
    by_cases same : other = id
    · subst same
      simpa [moveOf?] using serves_disconnect serves now
    · simpa [moveOf?, same] using serves_disconnect_aside serves same now
  | connect other url now =>
    rw [after_connect]
    by_cases same : other = id
    · subst same
      simpa [moveOf?] using
        serves_placed (serves_disconnect serves now) (disconnected traffic other now) url
    · simpa [moveOf?, same] using
        serves_placed (serves_disconnect_aside serves same now) (disconnected traffic other now) url
  | task other step =>
    rw [after]
    by_cases same : other = number
    · subst same
      simpa [moveOf?] using serves_moved serves (.task step)
    · simpa [moveOf?, same] using serves_aside serves same (.task step)
  | take other =>
    rw [after_take]
    by_cases same : other = number
    · subst same
      simpa [moveOf?] using serves_moved serves .take
    · simpa [moveOf?, same] using serves_aside serves same .take

/-- In any traffic a connection goes the way it would go alone, under the moves asked of it. -/
theorem serves_run (serves : traffic.Serves id number watched) (acts : List Act) :
    (traffic.run acts).Serves id number
      (watched.run traffic.table.settings (acts.filterMap (moveOf? id number))) := by
  induction acts generalizing traffic watched with
  | nil => exact serves
  | cons act acts ih =>
    have later := ih (serves_after serves act)
    rw [settings_after] at later
    cases move : moveOf? id number act with
    | none => simpa [move, run] using later
    | some move' => simpa [move, run, Watched.run] using later

/-! ### What is true of all traffic -/

/-- Every number in use is one of the table, and every connection of the table has gone its own way
since it was made for an instance. -/
structure Orderly (traffic : Traffic) : Prop where
  in_range : ∀ id number, traffic.table.number? id = some number → number < traffic.table.all.size
  served : ∀ number < traffic.table.all.size, ∃ id url moves,
    traffic.Serves id number ((Watched.fresh url).run traffic.table.settings moves)

/-- A connection in use has gone its own way since it was made. -/
theorem serves_of_use (orderly : traffic.Orderly) (used : traffic.table.number? id = some number) :
    ∃ url moves, traffic.Serves id number ((Watched.fresh url).run traffic.table.settings moves) := by
  obtain ⟨other, url, moves, serves⟩ := orderly.served number (orderly.in_range id number used)
  obtain rfl := serves.alone id used
  exact ⟨url, moves, serves⟩

/-- A new connection serves the instance it was placed for. -/
theorem placed_serves (orderly : traffic.Orderly) (free : traffic.table.number? id = none)
    (url : String) :
    (traffic.placed id url).Serves id traffic.table.all.size (.fresh url) where
  present := by rw [watched?_placed, if_pos rfl]
  alone other used := by
    rw [number?_placed free] at used
    split at used
    · assumption
    · exact absurd (orderly.in_range other _ used) (Nat.lt_irrefl _)
  out_of_use unused := absurd (by rw [number?_placed free, if_pos rfl]) unused

theorem start_orderly (settings : StreamSettings) : (start settings).Orderly where
  in_range id number used := by cases used
  served number below := absurd below (Nat.not_lt_zero number)

private theorem orderly_disconnect (orderly : traffic.Orderly) (id : String) (now : Nat) :
    (traffic.after (.disconnect id now)).Orderly where
  in_range other number used := by
    simp only [after, Connections.number?_disconnect, Connections.size_disconnect] at used ⊢
    split at used
    · cases used
    · exact orderly.in_range other number used
  served number below := by
    simp only [after, Connections.size_disconnect] at below
    rw [settings_after]
    obtain ⟨other, url, moves, serves⟩ := orderly.served number below
    by_cases same : id = other
    · subst same
      refine ⟨id, url, moves ++ [.close now], ?_⟩
      rw [Watched.run_concat]
      exact serves_disconnect serves now
    · exact ⟨other, url, moves, serves_disconnect_aside serves same now⟩

private theorem size_placed (traffic : Traffic) (id url : String) :
    (traffic.placed id url).table.all.size = traffic.table.all.size + 1 :=
  Array.size_push _

private theorem orderly_placed (orderly : traffic.Orderly)
    (free : traffic.table.number? id = none) (url : String) : (traffic.placed id url).Orderly where
  in_range other number used := by
    rw [number?_placed free] at used
    rw [size_placed]
    split at used
    · exact Nat.lt_succ_of_le (Nat.le_of_eq (Option.some.inj used).symm)
    · exact Nat.lt_succ_of_lt (orderly.in_range other number used)
  served number below := by
    rw [size_placed] at below
    rcases Nat.lt_or_eq_of_le (Nat.le_of_lt_succ below) with before | new
    · obtain ⟨other, address, moves, serves⟩ := orderly.served number before
      exact ⟨other, address, moves, serves_placed serves free url⟩
    · exact ⟨id, url, [], new ▸ placed_serves orderly free url⟩

private theorem orderly_moved (orderly : traffic.Orderly) (other : Nat) (move : Move) :
    (traffic.moved other move).Orderly where
  in_range id number used := by
    rw [moved, Connections.modify, Array.size_modify]
    exact orderly.in_range id number used
  served number below := by
    rw [moved, Connections.modify, Array.size_modify] at below
    obtain ⟨id, url, moves, serves⟩ := orderly.served number below
    by_cases same : other = number
    · subst same
      refine ⟨id, url, moves ++ [move], ?_⟩
      rw [Watched.run_concat]
      exact serves_moved serves move
    · exact ⟨id, url, moves, serves_aside serves same move⟩

theorem orderly_after (orderly : traffic.Orderly) (act : Act) : (traffic.after act).Orderly := by
  cases act with
  | connect id url now =>
    exact orderly_placed (orderly_disconnect orderly id now) (disconnected traffic id now) url
  | disconnect id now => exact orderly_disconnect orderly id now
  | task number step => exact orderly_moved orderly number (.task step)
  | take number => exact orderly_moved orderly number .take

/-- Orderly traffic stays so, whatever happens. -/
theorem orderly_run (orderly : traffic.Orderly) (acts : List Act) : (traffic.run acts).Orderly := by
  induction acts generalizing traffic with
  | nil => exact orderly
  | cons act acts ih => exact ih (orderly_after orderly act)

/-! ### A connection in use is open -/

/-- Whatever connection is in use is open. -/
def UsedOpen (traffic : Traffic) : Prop :=
  ∀ id number watched, traffic.table.number? id = some number →
    traffic.watched? number = some watched → watched.connection.closed = false

private theorem usedOpen_disconnect (orderly : traffic.Orderly) (usedOpen : traffic.UsedOpen)
    (id : String) (now : Nat) : (traffic.after (.disconnect id now)).UsedOpen := by
  intro other number watched used present
  simp only [after, Connections.number?_disconnect] at used
  split at used
  · cases used
  · rename_i differs
    have apart : traffic.table.number? id ≠ some number := by
      obtain ⟨url, moves, serves⟩ := serves_of_use orderly used
      exact fun same => differs (serves.alone id same).symm
    rw [watched?_disconnect, if_neg apart] at present
    exact usedOpen other number watched used present

private theorem usedOpen_placed (usedOpen : traffic.UsedOpen)
    (orderly : traffic.Orderly) (free : traffic.table.number? id = none) (url : String) :
    (traffic.placed id url).UsedOpen := by
  intro other number watched used present
  rw [number?_placed free] at used
  rw [watched?_placed] at present
  split at used
  · rw [if_pos (Option.some.inj used).symm] at present
    rw [← Option.some.inj present]
    rfl
  · rw [if_neg (Nat.ne_of_lt (orderly.in_range other number used))] at present
    exact usedOpen other number watched used present

private theorem usedOpen_moved (usedOpen : traffic.UsedOpen) (number : Nat) {move : Move}
    (keeps : ∀ connection : Connection,
      (connection.after traffic.table.settings move).closed = connection.closed) :
    (traffic.moved number move).UsedOpen := by
  intro id other watched used present
  rw [watched?_moved] at present
  split at present
  · obtain ⟨before, there, rfl⟩ := Option.map_eq_some_iff.mp present
    exact (keeps before.connection).trans (usedOpen id other before used there)
  · exact usedOpen id other watched used present

/-- Only what takes a connection out of use closes it. -/
theorem usedOpen_after (orderly : traffic.Orderly) (usedOpen : traffic.UsedOpen) (act : Act) :
    (traffic.after act).UsedOpen := by
  cases act with
  | connect id url now =>
    exact usedOpen_placed (usedOpen_disconnect orderly usedOpen id now)
      (orderly_after orderly (.disconnect id now)) (disconnected traffic id now) url
  | disconnect id now => exact usedOpen_disconnect orderly usedOpen id now
  | task number step =>
    exact usedOpen_moved usedOpen number fun _ => Connection.step_keeps_closed _ step
  | take number => exact usedOpen_moved usedOpen number fun _ => rfl

end Traffic
end LiveLog
