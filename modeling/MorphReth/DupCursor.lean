import MorphReth.SortedTable
import MorphReth.Versions
import Mathlib.Data.Prod.Lex

set_option autoImplicit false

namespace MorphReth

-- A table with several rows for a key, told apart and ordered by a subkey.
abbrev DupTable (κ ν : Type) [LinearOrder κ] : Type :=
  Table (κ ×ₗ Nat) ν

structure DupRow (κ ν : Type) where
  key : κ
  subkey : Nat
  value : ν
  deriving DecidableEq, Repr

-- A cursor stands on a row or nowhere. A move that finds no row leaves it
-- where it is.
structure DupCursor (κ ν : Type) [LinearOrder κ] where
  table : DupTable κ ν
  position : Option (κ × Nat)

namespace DupTable

variable {κ ν : Type} [LinearOrder κ]

def versions (table : DupTable κ ν) (key : κ) (subkey : Nat) : Option ν :=
  table.get (toLex (key, subkey))

def row (entry : (κ ×ₗ Nat) × ν) : DupRow κ ν where
  key := (ofLex entry.1).1
  subkey := (ofLex entry.1).2
  value := entry.2

def first (table : DupTable κ ν) (test : κ → Nat → Bool) : Option (DupRow κ ν) :=
  (table.rows.find? (fun entry => test (ofLex entry.1).1 (ofLex entry.1).2)).map row

def last (table : DupTable κ ν) (test : κ → Nat → Bool) : Option (DupRow κ ν) :=
  (table.rows.reverse.find? (fun entry => test (ofLex entry.1).1 (ofLex entry.1).2)).map row

variable (table : DupTable κ ν)

theorem mem_rows (key : κ) (subkey : Nat) (value : ν) :
    table.versions key subkey = some value ↔ (toLex (key, subkey), value) ∈ table.rows :=
  table.get_eq_some _ _

variable (test : κ → Nat → Bool)

theorem first_some (found : DupRow κ ν) (hit : table.first test = some found) :
    table.versions found.key found.subkey = some found.value ∧ test found.key found.subkey = true ∧
      ∀ key subkey value, table.versions key subkey = some value → test key subkey = true →
        found.key < key ∨ found.key = key ∧ found.subkey ≤ subkey := by
  obtain ⟨⟨place, value⟩, here, rfl⟩ := Option.map_eq_some_iff.mp hit
  obtain ⟨member, passes, least⟩ := table.find_least _ _ here
  refine ⟨(table.mem_rows _ _ _).mpr member, passes, fun key subkey other stored otherPasses => ?_⟩
  exact (Prod.Lex.le_iff).mp (least _ ((table.mem_rows _ _ _).mp stored) otherPasses)

theorem last_some (found : DupRow κ ν) (hit : table.last test = some found) :
    table.versions found.key found.subkey = some found.value ∧ test found.key found.subkey = true ∧
      ∀ key subkey value, table.versions key subkey = some value → test key subkey = true →
        key < found.key ∨ key = found.key ∧ subkey ≤ found.subkey := by
  obtain ⟨⟨place, value⟩, here, rfl⟩ := Option.map_eq_some_iff.mp hit
  obtain ⟨member, passes, greatest⟩ := table.find_greatest _ _ here
  refine ⟨(table.mem_rows _ _ _).mpr member, passes, fun key subkey other stored otherPasses => ?_⟩
  exact (Prod.Lex.le_iff).mp (greatest _ ((table.mem_rows _ _ _).mp stored) otherPasses)

theorem first_none (missing : table.first test = none) (key : κ) (subkey : Nat) (passes : test key subkey = true) :
    table.versions key subkey = none := by
  rw [Option.eq_none_iff_forall_ne_some]
  intro value stored
  exact List.find?_eq_none.mp (Option.map_eq_none_iff.mp missing) _ ((table.mem_rows _ _ _).mp stored) passes

theorem last_none (missing : table.last test = none) (key : κ) (subkey : Nat) (passes : test key subkey = true) :
    table.versions key subkey = none := by
  rw [Option.eq_none_iff_forall_ne_some]
  intro value stored
  exact List.find?_eq_none.mp (Option.map_eq_none_iff.mp missing) _ (List.mem_reverse.mpr ((table.mem_rows _ _ _).mp stored)) passes

end DupTable

namespace DupCursor

variable {κ ν : Type} [LinearOrder κ]

def move (cursor : DupCursor κ ν) (target : Option (DupRow κ ν)) : Option (DupRow κ ν) × DupCursor κ ν :=
  (target, { cursor with position := (target.map (fun row => (row.key, row.subkey))).or cursor.position })

def current (cursor : DupCursor κ ν) : Option (DupRow κ ν) :=
  cursor.position.bind (fun place => (cursor.table.versions place.1 place.2).map (fun value => ⟨place.1, place.2, value⟩))

def seek (cursor : DupCursor κ ν) (key : κ) : Option (DupRow κ ν) × DupCursor κ ν :=
  cursor.move (cursor.table.first (fun other _ => key ≤ other))

def seekExact (cursor : DupCursor κ ν) (key : κ) : Option (DupRow κ ν) × DupCursor κ ν :=
  cursor.move (cursor.table.first (fun other _ => other = key))

def seekByKeySubkey (cursor : DupCursor κ ν) (key : κ) (subkey : Nat) : Option (DupRow κ ν) × DupCursor κ ν :=
  cursor.move (cursor.table.first (fun other version => other = key && subkey ≤ version))

def prevDup (cursor : DupCursor κ ν) : Option (DupRow κ ν) × DupCursor κ ν :=
  cursor.move (cursor.position.bind (fun place => cursor.table.last (fun other version => other = place.1 && version < place.2)))

def lastDup (cursor : DupCursor κ ν) : Option (DupRow κ ν) × DupCursor κ ν :=
  cursor.move (cursor.position.bind (fun place => cursor.table.last (fun other _ => other = place.1)))

-- Without a position the walk starts at the first row.
def nextNoDup (cursor : DupCursor κ ν) : Option (DupRow κ ν) × DupCursor κ ν :=
  cursor.move (cursor.table.first (fun other _ => cursor.position.all (fun place => place.1 < other)))

-- Standing on some row of a key.
def AtKey (cursor : DupCursor κ ν) (key : κ) : Prop :=
  ∃ subkey value, cursor.position = some (key, subkey) ∧ cursor.table.versions key subkey = some value

theorem current_of_at_key (cursor : DupCursor κ ν) (key : κ) (here : cursor.AtKey key) : cursor.current.isSome := by
  obtain ⟨subkey, value, position, stored⟩ := here
  rw [current, position, Option.bind_some, stored]
  rfl

theorem move_none (cursor : DupCursor κ ν) : cursor.move none = (none, cursor) :=
  rfl

end DupCursor

section Walks

variable {κ ν σ : Type} [LinearOrder κ]

-- The least key passing a test at which a view has a value.
def FirstLive (view : κ → Option ν) (test : κ → Prop) : Option (κ × ν) → Prop
  | none => ∀ key, test key → view key = none
  | some (key, value) => test key ∧ view key = some value ∧ ∀ other, test other → other < key → view other = none

variable (view : κ → Option ν)

theorem first_live_widen (narrow wide : κ → Prop) (result : Option (κ × ν)) (implied : ∀ key, narrow key → wide key)
    (nothing : ∀ key, wide key → ¬narrow key → view key = none) (first : FirstLive view narrow result) : FirstLive view wide result := by
  cases result with
  | none =>
      intro key passes
      by_cases inside : narrow key
      · exact first key inside
      · exact nothing key passes inside
  | some entry =>
      obtain ⟨inside, held, least⟩ := first
      refine ⟨implied _ inside, held, fun key passes less => ?_⟩
      by_cases keyInside : narrow key
      · exact least key keyInside less
      · exact nothing key passes keyInside

-- Everything a cursor yields until it reports the end.
def drain (next : σ → Option (κ × ν) × σ) : Nat → σ → List (κ × ν)
  | 0, _ => []
  | fuel + 1, state =>
      match next state with
      | (none, _) => []
      | (some entry, after) => entry :: drain next fuel after

-- A list in key order with exactly the values of a view at the keys passing a
-- test.
structure Lists (view : κ → Option ν) (test : κ → Prop) (entries : List (κ × ν)) : Prop where
  sorted : entries.Pairwise (fun earlier later => earlier.1 < later.1)
  exactly : ∀ key value, (key, value) ∈ entries ↔ test key ∧ view key = some value

theorem lists_all (test : κ → Prop) (entries : List (κ × ν)) (all : ∀ key, test key) (lists : Lists view test entries) :
    Lists view (fun _ => True) entries :=
  ⟨lists.sorted, fun key value => (lists.exactly key value).trans ⟨fun both => ⟨trivial, both.2⟩, fun both => ⟨all key, both.2⟩⟩⟩

theorem lists_nil (test : κ → Prop) (nothing : FirstLive view test none) : Lists view test [] := by
  refine ⟨List.Pairwise.nil, fun key value => ⟨fun member => (by cases member), fun present => ?_⟩⟩
  cases (nothing key present.1).symm.trans present.2

theorem lists_cons (test : κ → Prop) (upward : ∀ low high, test low → low < high → test high) (key : κ) (value : ν) (rest : List (κ × ν))
    (first : FirstLive view test (some (key, value))) (others : Lists view (fun other => key < other) rest) :
    Lists view test ((key, value) :: rest) := by
  obtain ⟨passes, held, nothing⟩ := first
  refine ⟨List.pairwise_cons.mpr ⟨fun later member => ((others.exactly later.1 later.2).mp member).1, others.sorted⟩, fun other found => ?_⟩
  rw [List.mem_cons, others.exactly, Prod.mk.injEq]
  constructor
  · rintro (⟨rfl, rfl⟩ | ⟨above, present⟩)
    · exact ⟨passes, held⟩
    · exact ⟨upward key other passes above, present⟩
  · rintro ⟨otherPasses, present⟩
    rcases lt_trichotomy other key with below | same | above
    · cases (nothing other otherPasses below).symm.trans present
    · left
      rw [same] at present
      exact ⟨same, Option.some.inj (present.symm.trans held)⟩
    · exact .inr ⟨above, present⟩

-- What a cursor hands out from one answer on, up to the first call that finds
-- nothing.
inductive HandsOut (next : σ → Option (κ × ν) × σ) : Option (κ × ν) × σ → List (κ × ν) → Prop where
  | stop (state : σ) : HandsOut next (none, state) []
  | more (entry : κ × ν) (state : σ) (rest : List (κ × ν)) (later : HandsOut next (next state) rest) :
      HandsOut next (some entry, state) (entry :: rest)

omit [LinearOrder κ] in
theorem drain_of_hands_out (next : σ → Option (κ × ν) × σ) (entries : List (κ × ν)) (fuel : Nat) (state : σ)
    (handed : HandsOut next (next state) entries) (enough : entries.length < fuel) : drain next fuel state = entries := by
  induction entries generalizing fuel state with
  | nil =>
      cases fuel with
      | zero => rfl
      | succ fuel =>
          generalize called : next state = answer at handed
          cases handed
          simp only [drain, called]
  | cons entry rest ih =>
      cases fuel with
      | zero => cases enough
      | succ fuel =>
          generalize called : next state = answer at handed
          cases handed with
          | more _ after _ later => simp only [drain, called, ih fuel after later (Nat.lt_of_succ_lt_succ enough)]

variable (next : σ → Option (κ × ν) × σ) (view : κ → Option ν) (standing : σ → κ → Prop) (remaining : κ → Nat)

-- Each call from a place yields the next live key, and the cursor then stands
-- on it. The measure bounds the calls still to come.
structure WalksUp : Prop where
  step : ∀ state place, standing state place → FirstLive view (fun key => place < key) (next state).1 ∧
    ∀ key value, (next state).1 = some (key, value) → standing (next state).2 key
  fewer : ∀ state place key, standing state place → place < key → remaining key < remaining place

variable (walks : WalksUp next view standing remaining)

include walks

theorem hands_out_above (bound : Nat) (state : σ) (place : κ) (here : standing state place) (enough : remaining place < bound) :
    ∃ entries, HandsOut next (next state) entries ∧ Lists view (fun key => place < key) entries ∧ entries.length ≤ remaining place := by
  induction bound generalizing state place with
  | zero => omega
  | succ bound ih =>
      obtain ⟨first, moved⟩ := walks.step state place here
      cases called : next state with
      | mk result after =>
          rw [called] at first moved
          cases result with
          | none => exact ⟨[], .stop after, lists_nil _ _ first, Nat.zero_le _⟩
          | some entry =>
              have closer := walks.fewer state place entry.1 here first.1
              obtain ⟨rest, handed, lists, short⟩ := ih after entry.1 (moved entry.1 entry.2 rfl) (by omega)
              refine ⟨entry :: rest, .more entry after rest handed, ?_, by rw [List.length_cons]; omega⟩
              exact lists_cons view _ (fun low high above more => lt_trans above more) entry.1 entry.2 rest first lists

-- The same from an answer that is the first live key passing a test.
theorem hands_out_from (test : κ → Prop) (upward : ∀ low high, test low → low < high → test high) (answer : Option (κ × ν) × σ)
    (first : FirstLive view test answer.1) (moved : ∀ key value, answer.1 = some (key, value) → standing answer.2 key) (bound : Nat)
    (enough : ∀ key, remaining key < bound) :
    ∃ entries, HandsOut next answer entries ∧ Lists view test entries ∧ entries.length ≤ bound := by
  obtain ⟨result, after⟩ := answer
  cases result with
  | none => exact ⟨[], .stop after, lists_nil _ _ first, Nat.zero_le _⟩
  | some entry =>
      obtain ⟨rest, handed, lists, short⟩ := hands_out_above next view standing remaining walks bound after entry.1
        (moved entry.1 entry.2 rfl) (enough entry.1)
      have atMost := enough entry.1
      exact ⟨entry :: rest, .more entry after rest handed, lists_cons view test upward entry.1 entry.2 rest first lists,
        by rw [List.length_cons]; omega⟩

theorem drain_from (test : κ → Prop) (upward : ∀ low high, test low → low < high → test high) (fuel : Nat) (start : σ)
    (first : FirstLive view test (next start).1) (moved : ∀ key value, (next start).1 = some (key, value) → standing (next start).2 key)
    (enough : ∀ key, remaining key < fuel) : Lists view test (drain next (fuel + 1) start) := by
  obtain ⟨entries, handed, lists, short⟩ := hands_out_from next view standing remaining walks test upward (next start) first moved fuel enough
  rw [drain_of_hands_out next entries (fuel + 1) start handed (Nat.lt_succ_of_le short)]
  exact lists

end Walks

end MorphReth
