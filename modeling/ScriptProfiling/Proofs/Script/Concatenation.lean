import ScriptProfiling.Proofs.Catalog
import ScriptProfiling.Proofs.Partial
import ScriptProfiling.Script.Analysis
import Mathlib.Tactic

/-!
# Scripts one below the other

Analysis looks at each line for itself. The facts of a script whose lines are those of two
others are therefore the facts of the two, the line numbers of the second counted on from
the end of the first, and it fails where one of the two fails.
-/
namespace ScriptProfiling

namespace ScriptInfo

/-- Entries of a line, filed under its number counted on. -/
def shifted {β : Type} (offset : Int) (rows : List (Int × β)) : List (Int × β) :=
  rows.map fun r => (r.1 + offset, r.2)

section Rows

variable {α β : Type}

/-- What is seen of some items, filed under the numbers of their lines. -/
def rowsOf (see : α → Option β) (start : Int) (xs : List α) : List (Int × β) :=
  (numbered start xs).filterMap fun r => (see r.2).map fun y => (r.1, y)

theorem numbered_shift (start offset : Int) (xs : List α) :
    numbered (start + offset) xs = shifted offset (numbered start xs) := by
  induction xs generalizing start with
  | nil => rfl
  | cons x xs ih =>
    have hnext : start + offset + 1 = start + 1 + offset := by omega
    rw [numbered, hnext, ih]
    rfl

theorem numbered_append (start : Int) (xs ys : List α) :
    numbered start (xs ++ ys) = numbered start xs ++ numbered (start + xs.length) ys := by
  induction xs generalizing start with
  | nil => simp [numbered]
  | cons x xs ih =>
    have hnext : start + 1 + (xs.length : Int) = start + (x :: xs).length := by
      rw [List.length_cons]
      omega
    rw [List.cons_append, numbered, ih, hnext]
    rfl

theorem rowsOf_append (see : α → Option β) (start : Int) (xs ys : List α) :
    rowsOf see start (xs ++ ys) =
      rowsOf see start xs ++ shifted xs.length (rowsOf see start ys) := by
  rw [rowsOf, numbered_append, List.filterMap_append, numbered_shift]
  congr 1
  simp only [shifted, rowsOf, List.filterMap_map, List.map_filterMap, Function.comp_def,
    Option.map_map]

theorem rowsOf_cons (see : α → Option β) (start : Int) (x : α) (xs : List α) :
    rowsOf see start (x :: xs) =
      ((see x).map fun y => (start, y)).toList ++ rowsOf see (start + 1) xs := by
  rw [rowsOf, numbered, List.filterMap_cons]
  cases see x <;> rfl

theorem le_of_mem_rowsOf {see : α → Option β} {start : Int} {xs : List α} {r : Int × β}
    (h : r ∈ rowsOf see start xs) : start ≤ r.1 := by
  induction xs generalizing start with
  | nil => cases h
  | cons x xs ih =>
    rw [rowsOf_cons, List.mem_append, Option.mem_toList, Option.map_eq_some_iff] at h
    rcases h with ⟨y, -, rfl⟩ | h
    · exact le_rfl
    · have hle := ih h
      omega

theorem pairwise_rowsOf (see : α → Option β) (start : Int) (xs : List α) :
    ((rowsOf see start xs).map Prod.fst).Pairwise (· < ·) := by
  induction xs generalizing start with
  | nil => exact List.Pairwise.nil
  | cons x xs ih =>
    rw [rowsOf_cons]
    cases see x with
    | none => exact ih (start + 1)
    | some y =>
      refine List.pairwise_cons.mpr ⟨fun number hnumber => ?_, ih (start + 1)⟩
      obtain ⟨r, hr, rfl⟩ := List.mem_map.mp hnumber
      have hle := le_of_mem_rowsOf hr
      dsimp only
      omega

theorem nodup_rowsOf (see : α → Option β) (start : Int) (xs : List α) :
    ((rowsOf see start xs).map Prod.fst).Nodup :=
  (pairwise_rowsOf see start xs).imp ne_of_lt

/-- What is filed under a number is what is seen of that line. -/
theorem lookup_rowsOf (see : α → Option β) (start : Int) (xs : List α) (n : Nat) :
    Catalog.lookup (start + n) (rowsOf see start xs) = xs[n]?.bind see := by
  induction xs generalizing start n with
  | nil => rfl
  | cons x xs ih =>
    rw [rowsOf_cons]
    cases n with
    | zero =>
      cases hx : see x with
      | some y => simp [Catalog.lookup, hx]
      | none =>
        have hnone : Catalog.lookup start (rowsOf see (start + 1) xs) = none := by
          cases hfound : Catalog.lookup start (rowsOf see (start + 1) xs) with
          | none => rfl
          | some y =>
            have hle := le_of_mem_rowsOf (Catalog.mem_of_lookup hfound)
            dsimp only at hle
            omega
        simpa [hx] using hnone
    | succ n =>
      have hnumber : start + ((n + 1 : Nat) : Int) = start + 1 + n := by
        push_cast
        omega
      have hrest := ih (start + 1) n
      rw [List.getElem?_cons_succ, ← hrest, hnumber]
      cases see x with
      | none => rfl
      | some y =>
        have hne : start ≠ start + 1 + n := by omega
        exact if_neg hne

theorem mem_rowsOf {see : α → Option β} {start : Int} {xs : List α} {number : Int} {y : β} :
    (number, y) ∈ rowsOf see start xs ↔
      ∃ (n : Nat) (x : α), number = start + n ∧ xs[n]? = some x ∧ see x = some y := by
  constructor
  · intro h
    have hle := le_of_mem_rowsOf h
    dsimp only at hle
    obtain ⟨n, rfl⟩ := Int.exists_add_of_le hle
    have hsee := Catalog.lookup_of_mem (nodup_rowsOf see start xs) h
    rw [lookup_rowsOf, Option.bind_eq_some_iff] at hsee
    obtain ⟨x, hx, hy⟩ := hsee
    exact ⟨n, x, rfl, hx, hy⟩
  · rintro ⟨n, x, rfl, hx, hy⟩
    apply Catalog.mem_of_lookup
    rw [lookup_rowsOf, hx, Option.bind_some, hy]

end Rows

section Facts

/-- The labels of a line that has any. -/
def labels? (f : LineFacts) : Option (List Label) :=
  if f.labels.isEmpty then none else some f.labels

def loop? (f : LineFacts) : Option Unit := if f.loop then some () else none

variable (path : String) (lines : List String) (facts : List LineFacts)

theorem entries_labels : (ofFacts path lines facts).labels.entries = rowsOf labels? 1 facts := by
  have hrows : ((numbered 1 facts).map fun r => (r.1, r.2.labels)).filter (!·.2.isEmpty) =
      rowsOf labels? 1 facts := by
    rw [rowsOf, ← List.filterMap_eq_filter, List.filterMap_map]
    apply List.filterMap_congr
    intro r _
    cases h : r.2.labels.isEmpty <;> simp [labels?, h, Option.guard]
  change (Catalog.ofList (((numbered 1 facts).map fun r => (r.1, r.2.labels)).filter
    (!·.2.isEmpty))).entries = _
  rw [hrows, Catalog.entries_ofList (nodup_rowsOf labels? 1 facts)]

theorem entries_waits : (ofFacts path lines facts).waits.entries = rowsOf (·.wait?) 1 facts :=
  Catalog.entries_ofList (nodup_rowsOf (·.wait?) 1 facts)

theorem get?_waits (n : Nat) :
    (ofFacts path lines facts).waits.get? (n + 1) = facts[n]?.bind (·.wait?) := by
  rw [Catalog.get?, entries_waits, Int.add_comm]
  exact lookup_rowsOf (·.wait?) 1 facts n

theorem get?_labels (n : Nat) :
    (ofFacts path lines facts).labels.get? (n + 1) = facts[n]?.bind labels? := by
  rw [Catalog.get?, entries_labels, Int.add_comm]
  exact lookup_rowsOf labels? 1 facts n

theorem loopLines_eq :
    (ofFacts path lines facts).loopLines = (rowsOf loop? 1 facts).map Prod.fst := by
  change ((numbered 1 facts).filter (·.2.loop)).map (·.1) = _
  rw [rowsOf, ← List.filterMap_eq_filter, List.map_filterMap, List.map_filterMap]
  apply List.filterMap_congr
  intro r _
  cases h : r.2.loop <;> simp [loop?, h, Option.guard]

theorem countOf_append {α : Type} (p : α → Bool) (xs ys : List α) :
    countOf p (xs ++ ys) = countOf p xs + countOf p ys := by
  rw [countOf, List.filter_append, List.length_append, Nat.cast_add]
  rfl

theorem variableAccesses_eq : (ofFacts path lines facts).variableAccesses =
    (facts.map fun f => (f.variableAccesses : Int)).sum := by
  have hfold : ∀ total : Int,
      facts.foldl (fun total f => total + (f.variableAccesses : Int)) total =
        total + (facts.map fun f => (f.variableAccesses : Int)).sum := by
    induction facts with
    | nil => simp
    | cons f facts ih =>
      intro total
      rw [List.foldl_cons, ih, List.map_cons, List.sum_cons, Int.add_assoc]
  exact (hfold 0).trans (Int.zero_add _)

end Facts

/-- The facts of a script that has the lines of two, the second below the first. -/
structure Joins (a b whole : ScriptInfo) : Prop where
  path : whole.path = a.path
  name : whole.name = a.name
  lines : whole.lines = a.lines ++ b.lines
  labels : whole.labels.entries = a.labels.entries ++ shifted a.lineCount b.labels.entries
  loopLines : whole.loopLines = a.loopLines ++ b.loopLines.map (· + (a.lineCount : Int))
  waits : whole.waits.entries = a.waits.entries ++ shifted a.lineCount b.waits.entries
  events : whole.events = a.events + b.events
  functions : whole.functions = a.functions + b.functions
  commands : whole.commands = a.commands + b.commands
  loops : whole.loops = a.loops + b.loops
  variableAccesses : whole.variableAccesses = a.variableAccesses + b.variableAccesses

/-- Two scripts are joined in one way. -/
theorem Joins.unique {a b whole other : ScriptInfo} (h : Joins a b whole) (h' : Joins a b other) :
    whole = other := by
  have hlabels : whole.labels = other.labels := Catalog.ext (h.labels.trans h'.labels.symm)
  have hwaits : whole.waits = other.waits := Catalog.ext (h.waits.trans h'.waits.symm)
  cases whole
  cases other
  simp only [ScriptInfo.mk.injEq]
  exact ⟨h.path.trans h'.path.symm, h.name.trans h'.name.symm, h.lines.trans h'.lines.symm, hlabels,
    h.loopLines.trans h'.loopLines.symm, hwaits, h.events.trans h'.events.symm,
    h.functions.trans h'.functions.symm, h.commands.trans h'.commands.symm,
    h.loops.trans h'.loops.symm, h.variableAccesses.trans h'.variableAccesses.symm⟩

/-- A script without checks of its path: it can be analysed exactly if each line can. -/
theorem ofLines_eq_ok {path : String} {lines : List String} {info : ScriptInfo} :
    ofLines path lines = .ok info ↔
      ∃ facts, lines.mapM LineFacts.ofLine = .ok facts ∧ ofFacts path lines facts = info :=
  map_eq_ok

section Joined

variable {path : String} {first second : List String} {whole : ScriptInfo}

theorem joins_ofFacts {facts more : List LineFacts} (h : facts.length = first.length) :
    Joins (ofFacts path first facts) (ofFacts path second more)
      (ofFacts path (first ++ second) (facts ++ more)) where
  path := rfl
  name := rfl
  lines := rfl
  labels := by
    rw [entries_labels, entries_labels, entries_labels, rowsOf_append, h]
    rfl
  loopLines := by
    rw [loopLines_eq, loopLines_eq, loopLines_eq, rowsOf_append, h, List.map_append, shifted,
      List.map_map, List.map_map]
    rfl
  waits := by
    rw [entries_waits, entries_waits, entries_waits, rowsOf_append, h]
    rfl
  events := countOf_append ..
  functions := countOf_append ..
  commands := countOf_append ..
  loops := by
    change ((ofFacts path (first ++ second) (facts ++ more)).loopLines.length : Int) =
      (ofFacts path first facts).loopLines.length + (ofFacts path second more).loopLines.length
    rw [loopLines_eq, loopLines_eq, loopLines_eq, rowsOf_append, List.map_append,
      List.length_append, shifted, List.length_map, List.length_map, List.length_map,
      List.length_map, Nat.cast_add]
  variableAccesses := by
    rw [variableAccesses_eq, variableAccesses_eq, variableAccesses_eq, List.map_append,
      List.sum_append]

/-- Lines are analysed together exactly if the first and the second ones are, and the facts
are those of both. -/
theorem ofLines_append :
    ofLines path (first ++ second) = .ok whole ↔
      ∃ a b, ofLines path first = .ok a ∧ ofLines path second = .ok b ∧ Joins a b whole := by
  have hsplit : (first ++ second).mapM LineFacts.ofLine = (do
      let facts ← first.mapM LineFacts.ofLine
      let more ← second.mapM LineFacts.ofLine
      return facts ++ more) := List.mapM_append
  constructor
  · intro h
    obtain ⟨facts, hfacts, rfl⟩ := ofLines_eq_ok.mp h
    rw [hsplit] at hfacts
    obtain ⟨a, ha, hfacts⟩ := bind_eq_ok.mp hfacts
    obtain ⟨b, hb, hfacts⟩ := bind_eq_ok.mp hfacts
    obtain rfl := pure_eq_ok.mp hfacts
    exact ⟨_, _, ofLines_eq_ok.mpr ⟨a, ha, rfl⟩, ofLines_eq_ok.mpr ⟨b, hb, rfl⟩,
      joins_ofFacts (length_of_mapM ha)⟩
  · rintro ⟨a, b, ha, hb, hjoins⟩
    obtain ⟨facts, hfacts, rfl⟩ := ofLines_eq_ok.mp ha
    obtain ⟨more, hmore, rfl⟩ := ofLines_eq_ok.mp hb
    have hall : (first ++ second).mapM LineFacts.ofLine = .ok (facts ++ more) := by
      rw [hsplit, hfacts, hmore]
      rfl
    refine ofLines_eq_ok.mpr ⟨_, hall, ?_⟩
    exact (joins_ofFacts (length_of_mapM hfacts)).unique hjoins

theorem exists_number_of_wait {lines : List String} {facts : List LineFacts} {number : Int}
    {w : Wait} (h : (ofFacts path lines facts).waits.get? number = some w) :
    ∃ n : Nat, number = n + 1 := by
  rw [Catalog.get?, entries_waits] at h
  have hle := le_of_mem_rowsOf (Catalog.mem_of_lookup h)
  exact ⟨(number - 1).toNat, by dsimp only at hle; omega⟩

theorem labels_ofLines {lines : List String} {info : ScriptInfo}
    (h : ofLines path lines = .ok info) {n : Nat} {line : String} (hline : lines[n]? = some line) :
    ∃ single, ofLines path [line] = .ok single ∧
      info.labels.get? (n + 1) = single.labels.get? 1 := by
  obtain ⟨facts, hfacts, rfl⟩ := ofLines_eq_ok.mp h
  obtain ⟨f, hf, hnth⟩ := getElem?_of_mapM hfacts hline
  have hsingle : [line].mapM LineFacts.ofLine = .ok [f] := by
    rw [List.mapM_cons, hf]
    rfl
  refine ⟨_, ofLines_eq_ok.mpr ⟨_, hsingle, rfl⟩, ?_⟩
  rw [get?_labels, hnth]
  exact (get?_labels path [line] [f] 0).symm

end Joined

/-- The value of some lines of text. -/
def valueOf (lines : List String) : Value := .list (lines.map .text)

theorem ofValues_eq_ok {room : Nat} {path : Value} {lines : List String} {info : ScriptInfo} :
    ofValues room path (valueOf lines) = .ok info ↔
      ∃ name, pathOf room path = .ok name ∧ ofLines name lines = .ok info := by
  have hlines : ∀ name, linesOf name (valueOf lines) = .ok lines := by
    intro name
    rw [valueOf, linesOf, List.mapM_map]
    exact (mapM_eq_ok fun _ _ => rfl).trans (by rw [List.map_id'])
  constructor
  · intro h
    obtain ⟨name, hname, h⟩ := bind_eq_ok.mp h
    obtain ⟨read, hread, h⟩ := bind_eq_ok.mp h
    obtain rfl := Except.ok.inj ((hlines name).symm.trans hread)
    exact ⟨name, hname, h⟩
  · rintro ⟨name, hname, h⟩
    exact bind_eq_ok.mpr ⟨name, hname, bind_eq_ok.mpr ⟨lines, hlines name, h⟩⟩

/-- Analysis of lines put together is analysis of the parts put together, with the numbers of
the second part counted on; it succeeds exactly if both parts can be analysed. The labels of
each line are those that it has as the only line of a script. -/
theorem ofValues_append (room : Nat) (path : Value) (first second : List String)
    (whole : ScriptInfo) :
    (ofValues room path (valueOf (first ++ second)) = .ok whole ↔
      ∃ a b, ofValues room path (valueOf first) = .ok a ∧
        ofValues room path (valueOf second) = .ok b ∧ Joins a b whole) ∧
    (ofValues room path (valueOf (first ++ second)) = .ok whole →
      ∀ (n : Nat) line, (first ++ second)[n]? = some line →
        ∃ single, ofValues room path (valueOf [line]) = .ok single ∧
          whole.labels.get? (n + 1) = single.labels.get? 1) := by
  refine ⟨?_, ?_⟩
  · constructor
    · intro h
      obtain ⟨name, hname, h⟩ := ofValues_eq_ok.mp h
      obtain ⟨a, b, ha, hb, hjoins⟩ := ofLines_append.mp h
      exact ⟨a, b, ofValues_eq_ok.mpr ⟨name, hname, ha⟩, ofValues_eq_ok.mpr ⟨name, hname, hb⟩,
        hjoins⟩
    · rintro ⟨a, b, ha, hb, hjoins⟩
      obtain ⟨name, hname, ha⟩ := ofValues_eq_ok.mp ha
      obtain ⟨other, hother, hb⟩ := ofValues_eq_ok.mp hb
      obtain rfl := Except.ok.inj (hname.symm.trans hother)
      exact ofValues_eq_ok.mpr ⟨name, hname, ofLines_append.mpr ⟨a, b, ha, hb, hjoins⟩⟩
  · intro h n line hline
    obtain ⟨name, hname, h⟩ := ofValues_eq_ok.mp h
    obtain ⟨single, hsingle, hlabels⟩ := labels_ofLines h hline
    exact ⟨single, ofValues_eq_ok.mpr ⟨name, hname, hsingle⟩, hlabels⟩

/-- The head of an event and a loop in it. -/
def shopHead : List String := ["on join:", "  loop all players:"]

/-- The body of the loop, with a line that holds a line feed. -/
def shopBody : List String := ["    wait 2 seconds", "    set {x} to {y}\nloop blocks:"]

/-- The wait on the first line of the body is on the third line of the script. -/
theorem ofValues_append_shop :
    ∃ head body whole, ofValues 0 (.text "shop.sk") (valueOf shopHead) = .ok head ∧
      ofValues 0 (.text "shop.sk") (valueOf shopBody) = .ok body ∧ Joins head body whole ∧
      whole.loopLines = [2, 4] ∧ whole.waits.entries = [(3, ⟨2, "seconds"⟩)] ∧
      ∃ single, ofValues 0 (.text "shop.sk") (valueOf ["    wait 2 seconds"]) = .ok single ∧
        whole.labels.get? 3 = single.labels.get? 1 := by
  have hseen : ((ofValues 0 (.text "shop.sk") (valueOf (shopHead ++ shopBody))).toOption.map
      fun info => (info.loopLines, info.waits.entries)) =
        some ([2, 4], [(3, ⟨2, "seconds"⟩)]) := by
    decide +kernel
  obtain ⟨whole, hwhole, hfacts⟩ := Option.map_eq_some_iff.mp hseen
  obtain ⟨hloops, hwaits⟩ := Prod.mk.inj hfacts
  obtain ⟨hjoined, hlabels⟩ := ofValues_append 0 (.text "shop.sk") shopHead shopBody whole
  have hok := toOption_eq_some.mp hwhole
  obtain ⟨head, body, hhead, hbody, hjoins⟩ := hjoined.mp hok
  exact ⟨head, body, whole, hhead, hbody, hjoins, hloops, hwaits, hlabels hok 2 _ rfl⟩

end ScriptInfo
end ScriptProfiling
