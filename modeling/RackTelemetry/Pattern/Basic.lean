/-!
Patterns over texts: literal runs, sets of characters and their repetition, anchors, groups,
alternatives and optional parts. A pattern is run from the left and lists every way in which it can
match, the preferred one first: alternatives in the order they are written, repetitions longest
first. Each match accounts for the whole of the text it was run on (`splits_run`).
-/

namespace RackTelemetry

inductive CharSet where
  | any
  /-- The characters of the ranges, ends included, or all others. -/
  | ranges (negated : Bool) (rs : List (Char × Char))
  deriving Repr, DecidableEq, Inhabited

namespace CharSet

def has (c : Char) : CharSet → Bool
  | .any => c != '\n'
  | .ranges negated rs => (rs.any fun r => r.1 ≤ c && c ≤ r.2) != negated

def digit : CharSet := .ranges false [('0', '9')]

def notSlash : CharSet := .ranges true [('/', '/')]

def text : CharSet → List Char
  | .any => ['.']
  | .ranges negated rs =>
    ['['] ++ (if negated then ['^'] else []) ++
      rs.flatMap (fun r => if r.1 = r.2 then [r.1] else [r.1, '-', r.2]) ++ [']']

/-- Every way to take characters of the set from the front, the longest first. -/
def prefixes (set : CharSet) : List Char → List (List Char × List Char)
  | [] => [([], [])]
  | c :: cs =>
    if set.has c then
      (set.prefixes cs).map (fun (taken, rest) => (c :: taken, rest)) ++ [([], c :: cs)]
    else [([], c :: cs)]

end CharSet

inductive Pattern where
  | empty
  | literal (cs : List Char)
  /-- One character of a set. -/
  | one (set : CharSet)
  /-- Characters of a set, as many as possible, at least `least` of them. -/
  | many (set : CharSet) (least : Nat)
  | start
  | finish
  | seq (first second : Pattern)
  | alt (left right : Pattern)
  /-- The pattern or nothing, preferably the pattern. -/
  | optional (p : Pattern)
  /-- A pattern whose text is captured. -/
  | group (p : Pattern)
  deriving Repr, DecidableEq, Inhabited

namespace Pattern

instance : Append Pattern := ⟨.seq⟩

/-- One way to match: the text taken, the text of each group that took part, and the text left. -/
structure Match where
  taken : List Char
  captures : List (Option (List Char))
  rest : List Char
  deriving Repr, DecidableEq, Inhabited

def groups : Pattern → Nat
  | .seq p q => p.groups + q.groups
  | .alt p q => p.groups + q.groups
  | .optional p => p.groups
  | .group p => p.groups + 1
  | _ => 0

/-- Every way in which a pattern matches at the front of `cs`, in order of preference. `atStart`
says that nothing stands before `cs`. -/
def run : Pattern → Bool → List Char → List Match
  | .empty, _, cs => [⟨[], [], cs⟩]
  | .literal text, _, cs => if text.isPrefixOf cs then [⟨text, [], cs.drop text.length⟩] else []
  | .one set, _, cs =>
    match cs with
    | c :: rest => if set.has c then [⟨[c], [], rest⟩] else []
    | [] => []
  | .many set least, _, cs =>
    ((set.prefixes cs).filter fun (taken, _) => least ≤ taken.length).map
      fun (taken, rest) => ⟨taken, [], rest⟩
  | .start, atStart, cs => if atStart then [⟨[], [], cs⟩] else []
  | .finish, _, cs => if cs.isEmpty then [⟨[], [], cs⟩] else []
  | .seq p q, atStart, cs =>
    (p.run atStart cs).flatMap fun m =>
      (q.run (atStart && m.taken.isEmpty) m.rest).map fun n =>
        ⟨m.taken ++ n.taken, m.captures ++ n.captures, n.rest⟩
  | .alt p q, atStart, cs =>
    ((p.run atStart cs).map fun m =>
        { m with captures := m.captures ++ List.replicate q.groups none }) ++
      (q.run atStart cs).map fun m =>
        { m with captures := List.replicate p.groups none ++ m.captures }
  | .optional p, atStart, cs => p.run atStart cs ++ [⟨[], List.replicate p.groups none, cs⟩]
  | .group p, atStart, cs =>
    (p.run atStart cs).map fun m => { m with captures := some m.taken :: m.captures }

/-- The first match in a text: at the first place where there is one, the preferred one there. -/
def search (p : Pattern) (atStart : Bool) : List Char → Option Match
  | [] => (p.run atStart []).head?
  | c :: cs => (p.run atStart (c :: cs)).head?.or (p.search false cs)

/-- The texts of the groups of the first match. A group that took no part has the empty text. -/
def captures? (p : Pattern) (s : String) : Option (List String) :=
  (p.search true s.toList).map fun m => m.captures.map fun c => String.ofList (c.getD [])

def isMatch (p : Pattern) (s : String) : Bool := (p.search true s.toList).isSome

def chars : Pattern → List Char
  | .empty => []
  | .literal cs => cs
  | .one set => set.text
  | .many set least => set.text ++ [if least = 0 then '*' else '+']
  | .start => ['^']
  | .finish => ['$']
  | .seq p q => p.chars ++ q.chars
  | .alt p q => p.chars ++ ['|'] ++ q.chars
  | .optional p => p.chars ++ ['?']
  | .group p => ['('] ++ p.chars ++ [')']

def text (p : Pattern) : String := String.ofList p.chars

def lit (s : String) : Pattern := .literal s.toList

/-- A captured step of a path: one or more characters other than a slash. -/
def step : Pattern := .group (.many .notSlash 1)

/-- A captured number: one or more digits. -/
def number : Pattern := .group (.many .digit 1)

/-- One of several texts. -/
def oneOf : List String → Pattern
  | [] => .empty
  | [s] => lit s
  | s :: rest => .alt (lit s) (oneOf rest)

/-- A pattern for a whole text. -/
def whole (p : Pattern) : Pattern := .start ++ p ++ .finish

theorem append_of_mem_prefixes {set : CharSet} {cs : List Char} {m : List Char × List Char}
    (h : m ∈ set.prefixes cs) : m.1 ++ m.2 = cs := by
  induction cs generalizing m with
  | nil =>
    simp only [CharSet.prefixes, List.mem_singleton] at h
    simp [h]
  | cons c cs ih =>
    rw [CharSet.prefixes] at h
    split at h
    · simp only [List.mem_append, List.mem_map, List.mem_singleton] at h
      rcases h with ⟨n, hn, rfl⟩ | rfl
      · simp [ih hn]
      · simp
    · simp only [List.mem_singleton] at h
      simp [h]

/-- What a match took, followed by what it left, is the text it was run on. -/
theorem splits_run {p : Pattern} {atStart : Bool} {cs : List Char} {m : Match}
    (h : m ∈ p.run atStart cs) : m.taken ++ m.rest = cs := by
  induction p generalizing atStart cs m with
  | empty => simp_all [run]
  | literal text =>
    simp only [run] at h
    split at h
    · next hp =>
      simp only [List.mem_singleton] at h
      subst h
      exact List.prefix_iff_eq_append.1 (List.isPrefixOf_iff_prefix.1 hp)
    · simp at h
  | one set =>
    cases cs with
    | nil => simp [run] at h
    | cons c cs =>
      simp only [run] at h
      split at h <;> simp_all
  | many set least =>
    simp only [run, List.mem_map, List.mem_filter] at h
    obtain ⟨n, ⟨hn, -⟩, rfl⟩ := h
    exact append_of_mem_prefixes hn
  | start =>
    simp only [run] at h
    split at h <;> simp_all
  | finish =>
    simp only [run] at h
    split at h <;> simp_all
  | seq p q ihp ihq =>
    simp only [run, List.mem_flatMap, List.mem_map] at h
    obtain ⟨a, ha, b, hb, rfl⟩ := h
    simp [List.append_assoc, ihq hb, ihp ha]
  | alt p q ihp ihq =>
    simp only [run, List.mem_append, List.mem_map] at h
    rcases h with ⟨a, ha, rfl⟩ | ⟨a, ha, rfl⟩
    · simpa using ihp ha
    · simpa using ihq ha
  | optional p ih =>
    simp only [run, List.mem_append, List.mem_singleton] at h
    rcases h with h | rfl
    · exact ih h
    · simp
  | group p ih =>
    simp only [run, List.mem_map] at h
    obtain ⟨a, ha, rfl⟩ := h
    simpa using ih ha

end Pattern

end RackTelemetry
