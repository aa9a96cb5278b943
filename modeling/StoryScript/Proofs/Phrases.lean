import Mathlib.Data.List.Find
import StoryScript.Pattern.Compile
import StoryScript.Proofs.Hits

/-! Searching for a phrase: characters out of given sets, one after the other, under a condition on the
places at its two ends. The threads of its program that are alive at a place have read different
numbers of characters, so none of them shuts out another, and the one that started first is done
first. The matches are therefore those of a greedy scan from left to right. -/
namespace StoryScript.Pattern

open Unicode (CharSet)

structure Phrase where
  sets : List CharSet
  /-- Whether the phrase may start between two neighbours. -/
  opens : Option Char → Option Char → Bool
  /-- Whether it may end between them. -/
  closes : Option Char → Option Char → Bool
  nonempty : sets ≠ []

namespace Phrase

variable (phrase : Phrase)

def width : Nat := phrase.sets.length

theorem width_pos : 0 < phrase.width := List.length_pos_iff.mpr phrase.nonempty

/-- What follows a character has a member of each set in turn, and the phrase may end after them. -/
def completes : List CharSet → Option Char → List Char → Bool
  | [], before, rest => phrase.closes before rest.head?
  | _ :: _, _, [] => false
  | set :: sets, _, c :: rest => set.mem c && completes sets (some c) rest

def occurs (before : Option Char) (rest : List Char) : Bool :=
  phrase.opens before rest.head? && phrase.completes phrase.sets before rest

/-- Where the phrase occurs first, in a text that starts at an offset. -/
def first? : Option Char → Nat → List Char → Option Nat
  | _, _, [] => none
  | before, offset, c :: rest =>
    if phrase.occurs before (c :: rest) then some offset else first? (some c) (offset + 1) rest

/-- Where the phrase occurs, from left to right and without overlap: after the start of an occurrence
the characters that belong to it are skipped. -/
def scan : Nat → Option Char → Nat → List Char → List Nat
  | _, _, _, [] => []
  | skip + 1, _, offset, c :: rest => scan skip (some c) (offset + 1) rest
  | 0, before, offset, c :: rest =>
    if phrase.occurs before (c :: rest) then
      offset :: scan (phrase.width - 1) (some c) (offset + 1) rest
    else scan 0 (some c) (offset + 1) rest

def reads (c : Char) (index : Nat) : Bool := phrase.sets[index]?.any (·.mem c)

theorem completes_drop {count : Nat} (less : count < phrase.width) (before : Option Char) (c : Char)
    (rest : List Char) :
    phrase.completes (phrase.sets.drop count) before (c :: rest) =
      (phrase.reads c count && phrase.completes (phrase.sets.drop (count + 1)) (some c) rest) := by
  rw [List.drop_eq_getElem_cons less, reads, List.getElem?_eq_getElem less, completes,
    Option.any_some]

structure Within (border : Option Look) : Prop where
  opens : ∀ before after, phrase.opens before after = border.all (·.holds before after)
  closes : ∀ before after, phrase.closes before after = border.all (·.holds before after)

/-- The instructions that find a phrase with the given condition on its ends. -/
def code (border : Option Look) : List Inst :=
  border.toList.map .require ++
    (phrase.sets.map .consume ++ (border.toList.map .require ++ [.accept]))

def program (border : Option Look) : Program := ⟨(phrase.code border).toArray, 0⟩

end Phrase

/-! ### One place -/

/-- An instruction was reached, and no other. -/
def Marks (address : Nat) (seen seen' : Array Bool) : Prop := ∀ i, i ≠ address → seen'[i]? = seen[i]?

theorem marks_set {address : Nat} {seen : Array Bool} (inside : address < seen.size) :
    Marks address seen (seen.set address true inside) :=
  fun _ other => Array.getElem?_set_ne inside (Ne.symm other)

/-- No thread has reached an instruction before the given one. -/
def Unseen (seen : Array Bool) (bound : Nat) : Prop := ∀ i < bound, seen[i]? = some false

theorem Unseen.mono {seen : Array Bool} {bound bound' : Nat} (unseen : Unseen seen bound)
    (le : bound' ≤ bound) : Unseen seen bound' := fun i less => unseen i (Nat.lt_of_lt_of_le less le)

theorem Unseen.mark {seen seen' : Array Bool} {bound address : Nat} (unseen : Unseen seen bound)
    (marks : Marks address seen seen') (le : bound ≤ address) : Unseen seen' bound := by
  intro i less
  rw [marks i (by omega)]
  exact unseen i less

theorem unseen_replicate (size : Nat) : Unseen (Array.replicate size false) size := by
  intro i less
  simp [less]

namespace Program

variable {program : Program} {seen : Array Bool} {address : Nat}

theorem settle_consume {set : CharSet} (fresh : seen[address]? = some false)
    (inst : program.code[address]? = some (.consume set)) :
    ∃ seen', Marks address seen seen' ∧ ∀ before after offset waiting start saves others,
      program.settle before after offset seen waiting (⟨address, start, saves⟩ :: others) =
        program.settle before after offset seen' (⟨address, start, saves⟩ :: waiting) others := by
  obtain ⟨inside, fresh⟩ := Array.getElem?_eq_some_iff.mp fresh
  refine ⟨_, marks_set inside, ?_⟩
  intro before after offset waiting start saves others
  rw [settle, dif_pos inside, dif_pos fresh, inst]

theorem settle_require {look : Look} (fresh : seen[address]? = some false)
    (inst : program.code[address]? = some (.require look)) :
    ∃ seen', Marks address seen seen' ∧ ∀ before after offset waiting start saves others,
      program.settle before after offset seen waiting (⟨address, start, saves⟩ :: others) =
        program.settle before after offset seen' waiting
          (if look.holds before after then ⟨address + 1, start, saves⟩ :: others else others) := by
  obtain ⟨inside, fresh⟩ := Array.getElem?_eq_some_iff.mp fresh
  refine ⟨_, marks_set inside, ?_⟩
  intro before after offset waiting start saves others
  rw [settle, dif_pos inside, dif_pos fresh, inst]
  dsimp only
  split <;> rfl

theorem settle_accept (fresh : seen[address]? = some false)
    (inst : program.code[address]? = some .accept) (before after : Option Char) (offset : Nat)
    (waiting : List Thread) (start : Nat) (saves : List (Nat × Nat)) (others : List Thread) :
    program.settle before after offset seen waiting (⟨address, start, saves⟩ :: others) =
      (waiting.reverse, some ⟨start, offset, saves⟩) := by
  obtain ⟨inside, fresh⟩ := Array.getElem?_eq_some_iff.mp fresh
  rw [settle, dif_pos inside, dif_pos fresh, inst]

theorem run_found (program : Program) (before : Option Char) (offset : Nat) (hit : Hit)
    (rest : List Char) : program.run before offset [] (some hit) rest = some hit := by
  cases rest <;> simp [run]

theorem run_searching (program : Program) (before : Option Char) (offset : Nat)
    (threads : List Thread) (rest : List Char) :
    program.run before offset threads none rest =
      let (waiting, hit) := program.settle before rest.head? offset
        (Array.replicate program.code.size false) [] (threads ++ [⟨0, offset, []⟩])
      match rest with
      | [] => hit
      | c :: rest =>
        program.run (some c) (offset + 1) (waiting.filterMap (program.advance c)) hit rest := by
  rw [run.eq_def]
  cases rest <;> simp

end Program

/-! ### The threads of a phrase -/

/-- How much threads have read: each less than the one before it, and all of them something. -/
structure Descend (bound : Nat) (counts : List Nat) : Prop where
  ordered : counts.Pairwise (· > ·)
  inside : ∀ count ∈ counts, 0 < count ∧ count ≤ bound

theorem descend_nil (bound : Nat) : Descend bound [] := ⟨.nil, by simp⟩

theorem descend_cons {bound count : Nat} {more : List Nat} :
    Descend bound (count :: more) ↔ 0 < count ∧ count ≤ bound ∧ Descend (count - 1) more := by
  constructor
  · rintro ⟨ordered, inside⟩
    obtain ⟨less, ordered⟩ := List.pairwise_cons.mp ordered
    obtain ⟨positive, le⟩ := inside count (by simp)
    refine ⟨positive, le, ordered, fun other member => ?_⟩
    have := less other member
    exact ⟨(inside other (by simp [member])).1, by omega⟩
  · rintro ⟨positive, le, ordered, inside⟩
    have below (other : Nat) (member : other ∈ more) : 0 < other ∧ other < count := by
      have := inside other member
      omega
    refine ⟨.cons (fun other member => (below other member).2) ordered, ?_⟩
    intro other member
    rcases List.mem_cons.mp member with rfl | member
    · exact ⟨positive, le⟩
    · have := below other member
      omega

/-- Only the first thread can have read as much as the bound allows. -/
theorem Descend.head? {bound : Nat} {counts : List Nat} (descend : Descend bound counts)
    (member : bound ∈ counts) : counts.head? = some bound := by
  cases counts with
  | nil => cases member
  | cons first more =>
    obtain ⟨positive, le, descend⟩ := descend_cons.mp descend
    rcases List.mem_cons.mp member with rfl | later
    · rfl
    · have := descend.inside bound later
      omega

/-- The thread that has read some characters of a phrase when it comes to an offset. -/
def threadAt (border : Option Look) (offset count : Nat) : Thread :=
  ⟨border.toList.length + count, offset - count, []⟩

namespace Phrase

variable {phrase : Phrase} {border : Option Look} {seen : Array Bool}

theorem size_code (phrase : Phrase) (border : Option Look) : (phrase.program border).code.size =
    border.toList.length + (phrase.width + (border.toList.length + 1)) := by
  simp [program, code, width]

theorem code_consume {i : Nat} {set : CharSet} (found : phrase.sets[i]? = some set) :
    (phrase.program border).code[border.toList.length + i]? = some (.consume set) := by
  have inside := (List.getElem?_eq_some_iff.mp found).1
  simp only [program, code, List.getElem?_toArray]
  rw [List.getElem?_append_right (by simp), List.getElem?_append_left (by simpa using inside)]
  simp [found]

/-- What follows the sets: the condition on the end of the phrase, if there is one, and acceptance. -/
theorem code_after (i : Nat) :
    (phrase.program border).code[border.toList.length + phrase.width + i]? =
      (border.toList.map Inst.require ++ [Inst.accept])[i]? := by
  simp only [program, code, width, List.getElem?_toArray, Nat.add_assoc]
  rw [List.getElem?_append_right (by simp), List.length_map, Nat.add_sub_cancel_left,
    List.getElem?_append_right (by simp), List.length_map, Nat.add_sub_cancel_left]

/-- Threads that have read less and less, but none of them all, wait for their next characters. -/
theorem settle_threads {bound : Nat} {counts : List Nat} (descend : Descend bound counts)
    (limit : bound < phrase.width) (unseen : Unseen seen (border.toList.length + bound + 1)) :
    ∃ seen', Unseen seen' (border.toList.length + 1) ∧ ∀ before after offset waiting others,
      (phrase.program border).settle before after offset seen waiting
          (counts.map (threadAt border offset) ++ others) =
        (phrase.program border).settle before after offset seen'
          ((counts.map (threadAt border offset)).reverse ++ waiting) others := by
  induction counts generalizing seen bound with
  | nil => exact ⟨seen, unseen.mono (by omega), fun _ _ _ _ _ => rfl⟩
  | cons count more ih =>
    obtain ⟨positive, le, descend⟩ := descend_cons.mp descend
    obtain ⟨set, found⟩ : ∃ set, phrase.sets[count]? = some set :=
      ⟨_, List.getElem?_eq_getElem (Nat.lt_of_le_of_lt le limit)⟩
    obtain ⟨marked, marks, stepped⟩ := Program.settle_consume
      (unseen (border.toList.length + count) (by omega)) (code_consume found)
    obtain ⟨seen', unseen', rest⟩ := ih descend (by omega)
      ((unseen.mono (by omega)).mark marks (by omega))
    refine ⟨seen', unseen', ?_⟩
    intro before after offset waiting others
    rw [List.map_cons, List.cons_append, threadAt, stepped, rest]
    simp

/-- A thread that has read all is a match, if the phrase may end here. -/
theorem settle_complete (within : phrase.Within border)
    (unseen : Unseen seen (phrase.program border).code.size) :
    ∃ seen', Unseen seen' (border.toList.length + phrase.width) ∧
      ∀ before after offset waiting others,
        (phrase.program border).settle before after offset seen waiting
            (threadAt border offset phrase.width :: others) =
          if phrase.closes before after then
            (waiting.reverse, some ⟨offset - phrase.width, offset, []⟩)
          else (phrase.program border).settle before after offset seen' waiting others := by
  rw [size_code] at unseen
  cases border with
  | none =>
    refine ⟨seen, unseen.mono (by simp), ?_⟩
    intro before after offset waiting others
    rw [threadAt, Program.settle_accept (unseen _ (by simp)) (code_after 0), within.closes]
    simp
  | some look =>
    have closing : (phrase.program (some look)).code[1 + phrase.width]? = some (.require look) :=
      code_after 0
    have accepting : (phrase.program (some look)).code[1 + phrase.width + 1]? = some .accept :=
      code_after 1
    obtain ⟨seen', marks, stepped⟩ := Program.settle_require (unseen _ (by simp)) closing
    refine ⟨seen', (unseen.mono (by simp)).mark marks (Nat.le_refl _), ?_⟩
    intro before after offset waiting others
    have fresh : seen'[1 + phrase.width + 1]? = some false := by
      rw [marks _ (by omega)]
      exact unseen _ (by simp; omega)
    rw [threadAt, Option.toList_some, List.length_singleton, stepped, within.closes, Option.all_some]
    split
    · exact Program.settle_accept fresh accepting ..
    · rfl

theorem settle_new (within : phrase.Within border) (unseen : Unseen seen (border.toList.length + 1))
    (before after : Option Char) (offset : Nat) (waiting : List Thread) :
    (phrase.program border).settle before after offset seen waiting [⟨0, offset, []⟩] =
      (waiting.reverse ++
        (if phrase.opens before after then [0] else []).map (threadAt border offset), none) := by
  obtain ⟨set, found⟩ : ∃ set, phrase.sets[0]? = some set :=
    ⟨_, List.getElem?_eq_getElem phrase.width_pos⟩
  rw [within.opens]
  cases border with
  | none =>
    have waits : (phrase.program none).code[0]? = some (.consume set) := code_consume found
    obtain ⟨seen', _, stepped⟩ := Program.settle_consume (unseen 0 (by simp)) waits
    rw [stepped, Program.settle]
    simp [threadAt]
  | some look =>
    have opening : (phrase.program (some look)).code[0]? = some (.require look) := rfl
    have waits : (phrase.program (some look)).code[1]? = some (.consume set) := code_consume found
    obtain ⟨marked, marks, stepped⟩ := Program.settle_require (unseen 0 (by simp)) opening
    have fresh : marked[1]? = some false := by
      rw [marks 1 (by omega)]
      exact unseen 1 (by simp)
    obtain ⟨seen', _, stepped'⟩ := Program.settle_consume fresh waits
    rw [stepped, Option.all_some]
    split
    · rw [stepped', Program.settle]
      simp [threadAt]
    · rw [Program.settle]
      simp

section

variable (phrase) (counts : List Nat) (before after : Option Char)

/-- How much the threads have read that go on waiting at a place, a new one among them. -/
def waitingCounts : List Nat :=
  counts.filter (· < phrase.width) ++ if phrase.opens before after then [0] else []

variable {counts before after} in
theorem mem_waitingCounts {count : Nat} (waiting : count ∈ phrase.waitingCounts counts before after) :
    count < phrase.width ∧ (count ∈ counts ∨ count = 0) := by
  rcases List.mem_append.mp waiting with old | new
  · obtain ⟨member, less⟩ := List.mem_filter.mp old
    exact ⟨of_decide_eq_true less, .inl member⟩
  · split at new
    · rw [List.mem_singleton.mp new]
      exact ⟨phrase.width_pos, .inr rfl⟩
    · cases new

variable {counts} in
theorem descend_waitingCounts {bound : Nat} (descend : Descend bound counts) (reads : Nat → Bool) :
    Descend phrase.width (((phrase.waitingCounts counts before after).filter reads).map (· + 1)) := by
  have ordered : (phrase.waitingCounts counts before after).Pairwise (· > ·) := by
    refine List.pairwise_append.mpr ⟨descend.ordered.filter _, ?_, ?_⟩
    · split <;> simp
    · intro old member new added
      have := (descend.inside old (List.mem_filter.mp member).1).1
      split at added
      · rwa [List.mem_singleton.mp added]
      · cases added
  refine ⟨List.pairwise_map.mpr ((ordered.filter _).imp Nat.succ_lt_succ), ?_⟩
  intro count member
  obtain ⟨read, waiting, rfl⟩ := List.mem_map.mp member
  exact ⟨Nat.succ_pos _, (phrase.mem_waitingCounts (List.mem_filter.mp waiting).1).1⟩

end

section

variable (within : phrase.Within border) {counts : List Nat} (before after : Option Char)
  (offset : Nat)

include within

/-- Threads of which none has read everything go on waiting, and a new one may join them. -/
theorem settle_waiting {bound : Nat} (descend : Descend bound counts) (less : bound < phrase.width)
    (unseen : Unseen seen (border.toList.length + bound + 1)) :
    (phrase.program border).settle before after offset seen []
        (counts.map (threadAt border offset) ++ [⟨0, offset, []⟩]) =
      ((phrase.waitingCounts counts before after).map (threadAt border offset), none) := by
  obtain ⟨seen', unseen', stepped⟩ := settle_threads descend less unseen
  have all : counts.filter (· < phrase.width) = counts := by
    refine List.filter_eq_self.mpr fun count member => decide_eq_true ?_
    exact Nat.lt_of_le_of_lt (descend.inside count member).2 less
  rw [stepped, settle_new within unseen', waitingCounts, all]
  simp

theorem settle_phrase (descend : Descend phrase.width counts) :
    (phrase.program border).settle before after offset
        (Array.replicate (phrase.program border).code.size false) []
        (counts.map (threadAt border offset) ++ [⟨0, offset, []⟩]) =
      if counts.head? = some phrase.width ∧ phrase.closes before after then
        ([], some ⟨offset - phrase.width, offset, []⟩)
      else ((phrase.waitingCounts counts before after).map (threadAt border offset), none) := by
  have positive := phrase.width_pos
  have unseen := unseen_replicate (phrase.program border).code.size
  have size := phrase.size_code border
  cases counts with
  | nil =>
    rw [settle_waiting within _ _ _ (descend_nil 0) positive (unseen.mono (by omega))]
    simp
  | cons count more =>
    obtain ⟨read, le, descend⟩ := descend_cons.mp descend
    by_cases full : count = phrase.width
    · subst full
      obtain ⟨seen', unseen', stepped⟩ := settle_complete within unseen
      rw [List.map_cons, List.cons_append, stepped,
        settle_waiting within _ _ _ descend (by omega) (unseen'.mono (by omega))]
      simp [waitingCounts]
    · have more_to_read : Descend count (count :: more) :=
        descend_cons.mpr ⟨read, Nat.le_refl _, descend⟩
      rw [settle_waiting within _ _ _ more_to_read (by omega) (unseen.mono (by omega))]
      simp [full]

end

/-! ### The search -/

theorem advance_threadAt (c : Char) (offset : Nat) {count : Nat} (less : count < phrase.width) :
    (phrase.program border).advance c (threadAt border offset count) =
      if phrase.reads c count then some (threadAt border (offset + 1) (count + 1)) else none := by
  have found := List.getElem?_eq_getElem less
  rw [Program.advance, threadAt, code_consume found, reads, found]
  simp [threadAt, Nat.add_assoc]

theorem filterMap_advance (c : Char) (offset : Nat) {counts : List Nat}
    (less : ∀ count ∈ counts, count < phrase.width) :
    (counts.map (threadAt border offset)).filterMap ((phrase.program border).advance c) =
      ((counts.filter (phrase.reads c)).map (· + 1)).map (threadAt border (offset + 1)) := by
  induction counts with
  | nil => rfl
  | cons count more ih =>
    have rest := ih fun count member => less count (by simp [member])
    rw [List.map_cons, List.filterMap_cons, advance_threadAt c offset (less count (by simp)),
      List.filter_cons, rest]
    by_cases read : phrase.reads c count <;> simp [read]

section

variable {counts : List Nat} {before : Option Char} {offset : Nat}

/-- Threads that have not found their phrase here find it if they do so after reading on, and a new
one finds it if the phrase occurs here. -/
theorem find?_waitingCounts {c : Char} {rest : List Char} (offset : Nat)
    (unfinished : ∀ count ∈ counts, phrase.completes (phrase.sets.drop count) before (c :: rest) →
      count < phrase.width) :
    ((((phrase.waitingCounts counts before (some c)).filter (phrase.reads c)).map (· + 1)).find?
        fun count => phrase.completes (phrase.sets.drop count) (some c) rest).map (offset + 1 - ·) =
      ((counts.find? fun count => phrase.completes (phrase.sets.drop count) before (c :: rest)).map
        (offset - ·)).or (if phrase.occurs before (c :: rest) then some offset else none) := by
  have old : (counts.filter (· < phrase.width)).find? (fun count => phrase.reads c count &&
      phrase.completes (phrase.sets.drop (count + 1)) (some c) rest) =
      counts.find? fun count => phrase.completes (phrase.sets.drop count) before (c :: rest) := by
    rw [List.find?_filter]
    refine List.find?_congr fun count member => ?_
    by_cases less : count < phrase.width
    · simp [less, completes_drop]
    · simpa [less] using mt (unfinished count member) less
  have new : (if phrase.opens before (some c) then [0] else []).find? (fun count =>
      phrase.reads c count && phrase.completes (phrase.sets.drop (count + 1)) (some c) rest) =
      if phrase.occurs before (c :: rest) then some 0 else none := by
    have whole := phrase.completes_drop phrase.width_pos before c rest
    rw [List.drop_zero] at whole
    by_cases starts : phrase.opens before (some c) <;>
      simp [starts, occurs, whole, List.find?_singleton]
  rw [List.find?_map, List.find?_filter, Option.map_map, waitingCounts]
  simp only [Function.comp_def, Nat.add_sub_add_right, Bool.decide_and, Bool.decide_eq_true]
  rw [List.find?_append, Option.map_or, old, new]
  split <;> rfl

def hitAt (phrase : Phrase) (start : Nat) : Hit := ⟨start, start + phrase.width, []⟩

theorem lt_width_of_completes {rest : List Char} (descend : Descend phrase.width counts)
    (going : ¬ (counts.head? = some phrase.width ∧ phrase.closes before rest.head?)) :
    ∀ count ∈ counts, phrase.completes (phrase.sets.drop count) before rest → count < phrase.width := by
  intro count member completes
  refine Nat.lt_of_le_of_ne (descend.inside count member).2 ?_
  rintro rfl
  rw [width, List.drop_length, Phrase.completes] at completes
  exact going ⟨descend.head? member, completes⟩

theorem run_done (within : phrase.Within border) (descend : Descend phrase.width counts)
    (started : ∀ count ∈ counts, count ≤ offset) {rest : List Char}
    (done : counts.head? = some phrase.width ∧ phrase.closes before rest.head?) :
    (phrase.program border).run before offset (counts.map (threadAt border offset)) none rest =
      some (phrase.hitAt (offset - phrase.width)) ∧
    counts.find? (fun count => phrase.completes (phrase.sets.drop count) before rest) =
      some phrase.width := by
  obtain ⟨more, rfl⟩ := List.head?_eq_some_iff.mp done.1
  have whole : phrase.completes (phrase.sets.drop phrase.width) before rest := by
    rw [width, List.drop_length, completes]
    exact done.2
  have stop : offset - phrase.width + phrase.width = offset :=
    Nat.sub_add_cancel (started phrase.width (by simp))
  refine ⟨?_, List.find?_cons_of_pos whole⟩
  rw [Program.run_searching, settle_phrase within _ _ _ descend, if_pos done, hitAt, stop]
  cases rest with
  | nil => rfl
  | cons c rest => exact Program.run_found ..

end

/-- A search goes on with the threads that it has: the first of them to have its phrase completed is
the match, and if there is none, the first occurrence from here on. -/
theorem run_eq (within : phrase.Within border) {counts : List Nat} {offset : Nat}
    (descend : Descend phrase.width counts) (started : ∀ count ∈ counts, count ≤ offset)
    (before : Option Char) (rest : List Char) :
    (phrase.program border).run before offset (counts.map (threadAt border offset)) none rest =
      (((counts.find? fun count => phrase.completes (phrase.sets.drop count) before rest).map
        (offset - ·)).or (phrase.first? before offset rest)).map phrase.hitAt := by
  by_cases done : counts.head? = some phrase.width ∧ phrase.closes before rest.head?
  · obtain ⟨matched, found⟩ := run_done within descend started done
    rw [matched, found]
    rfl
  have unfinished := lt_width_of_completes descend done
  rw [Program.run_searching, settle_phrase within _ _ _ descend, if_neg done]
  match rest with
  | [] =>
    have missing : counts.find? (fun count =>
        phrase.completes (phrase.sets.drop count) before []) = none := by
      refine List.find?_eq_none.mpr fun count member completes => ?_
      rw [List.drop_eq_getElem_cons (unfinished count member completes)] at completes
      cases completes
    rw [missing]
    rfl
  | c :: rest =>
    have next := phrase.descend_waitingCounts before (some c) descend (phrase.reads c)
    have started' : ∀ count ∈ ((phrase.waitingCounts counts before (some c)).filter
        (phrase.reads c)).map (· + 1), count ≤ offset + 1 := by
      intro count member
      obtain ⟨read, waiting, rfl⟩ := List.mem_map.mp member
      rcases (phrase.mem_waitingCounts (List.mem_filter.mp waiting).1).2 with old | rfl
      · exact Nat.succ_le_succ (started read old)
      · exact Nat.succ_le_succ (Nat.zero_le _)
    have go_on : (if phrase.occurs before (c :: rest) then some offset else none).or
        (phrase.first? (some c) (offset + 1) rest) = phrase.first? before offset (c :: rest) := by
      rw [first?]
      split <;> rfl
    dsimp only [List.head?_cons]
    rw [filterMap_advance c offset fun _ waiting => (phrase.mem_waitingCounts waiting).1,
      run_eq within next started', find?_waitingCounts offset unfinished, Option.or_assoc, go_on]
termination_by rest.length

theorem search_eq (within : phrase.Within border) (place : Place) :
    (phrase.program border).search place =
      (phrase.first? place.before place.offset place.rest).map phrase.hitAt := by
  exact run_eq within (descend_nil _) (by simp) place.before place.rest

/-! ### All matches of a text -/

theorem length_le_of_completes {sets : List CharSet} {before : Option Char} {rest : List Char}
    (completes : phrase.completes sets before rest) : sets.length ≤ rest.length := by
  fun_induction Phrase.completes phrase sets before rest with
  | case1 => simp
  | case2 => cases completes
  | case3 set sets before c rest ih =>
    exact Nat.succ_le_succ (ih ((Bool.and_eq_true_iff.mp completes).2))

theorem width_le_of_occurs {before : Option Char} {rest : List Char}
    (occurs : phrase.occurs before rest) : phrase.width ≤ rest.length :=
  length_le_of_completes (Bool.and_eq_true_iff.mp occurs).2

section

variable (phrase) {text : List Char} {offset : Nat}

def scanFrom (text : List Char) (offset : Nat) : List Nat :=
  phrase.scan 0 (Place.after text offset).before offset (text.drop offset)

theorem after_of_drop {c : Char} {rest : List Char} (follows : text.drop offset = c :: rest) :
    text.drop (offset + 1) = rest ∧ (Place.after text (offset + 1)).before = some c := by
  constructor
  · rw [← List.drop_drop, follows, List.drop_one, List.tail_cons]
  · have atOffset := congrArg List.head? follows
    simpa [Place.after] using atOffset

theorem scan_after (text : List Char) {offset : Nat} (skip : Nat)
    (inside : offset + skip ≤ text.length) :
    phrase.scan skip (Place.after text offset).before offset (text.drop offset) =
      phrase.scanFrom text (offset + skip) := by
  induction skip generalizing offset with
  | zero => rfl
  | succ skip ih =>
    have follows := List.drop_eq_getElem_cons (show offset < text.length by omega)
    obtain ⟨next, before⟩ := after_of_drop follows
    rw [follows, scan, ← before, ← next, ih (by omega), Nat.add_assoc, Nat.add_comm 1]

theorem scanFrom_eq (inside : offset ≤ text.length) :
    phrase.scanFrom text offset =
      match phrase.first? (Place.after text offset).before offset (text.drop offset) with
      | some start => start :: phrase.scanFrom text (start + phrase.width)
      | none => [] := by
  induction left : text.drop offset generalizing offset with
  | nil => rw [scanFrom, left]; rfl
  | cons c rest ih =>
    obtain ⟨next, before⟩ := after_of_drop left
    have size := congrArg List.length left
    rw [List.length_drop, List.length_cons] at size
    rw [scanFrom, left, scan, first?]
    split
    · rename_i occurs
      have fits := width_le_of_occurs occurs
      rw [List.length_cons] at fits
      have positive := phrase.width_pos
      have skipped := phrase.scan_after text (phrase.width - 1) (show offset + 1 + _ ≤ _ by omega)
      rw [before, next,
        show offset + 1 + (phrase.width - 1) = offset + phrase.width by omega] at skipped
      rw [skipped]
    · rw [← before, ← ih (by omega) next, scanFrom, next]

theorem searchAfter_eq (within : phrase.Within border) (text : List Char) (offset : Nat) :
    (phrase.program border).searchAfter text offset =
      (phrase.first? (Place.after text offset).before offset (text.drop offset)).map
        phrase.hitAt := by
  have positive := phrase.width_pos
  rw [Program.searchAfter, search_eq within]
  simp only [Place.after]
  cases phrase.first? _ offset (text.drop offset) with
  | none => rfl
  | some start =>
    have longer : ¬ (start = start + phrase.width ∧ start + phrase.width = offset) := by omega
    simp only [Option.map_some, hitAt, if_neg longer]

theorem matchesAfter_eq_scanFrom (within : phrase.Within border) {text : List Char} {offset : Nat}
    (inside : offset ≤ text.length) :
    (phrase.program border).matchesAfter text offset =
      (phrase.scanFrom text offset).map phrase.hitAt := by
  have searched := phrase.searchAfter_eq within text offset
  rw [Program.matchesAfter_eq _ inside, scanFrom_eq _ inside, searched]
  cases found : phrase.first? (Place.after text offset).before offset (text.drop offset) with
  | none => rfl
  | some start =>
    rw [found] at searched
    have bounds := Program.searchAfter_within inside searched
    have stop : start + phrase.width ≤ text.length := bounds.1.stop
    have ahead : offset < start + phrase.width := bounds.2
    simp only [Option.map_some, List.map_cons]
    rw [← matchesAfter_eq_scanFrom within stop]
    rfl
termination_by text.length - offset

/-- The matches of a phrase in a text are those of a greedy scan. -/
theorem allMatches_eq (within : phrase.Within border) (text : List Char) :
    (phrase.program border).allMatches text = (phrase.scan 0 none 0 text).map phrase.hitAt := by
  have scanned := phrase.matchesAfter_eq_scanFrom within (Nat.zero_le text.length)
  rw [Program.matchesAfter_eq _ (Nat.zero_le _), searchAfter_eq phrase within] at scanned
  rw [Program.allMatches, search_eq within]
  exact scanned

end

end Phrase

end StoryScript.Pattern
