/-!
Cutting and replacing inside texts, given as lists of characters.
-/
namespace LiveConfig.Text

def cutAt (p : Char → Bool) : List Char → Option (List Char × List Char)
  | [] => none
  | c :: cs => if p c then some ([], cs) else (cutAt p cs).map fun (a, b) => (c :: a, b)

theorem cutAt_append {p : Char → Bool} {before : List Char} {c : Char} (others : ∀ d ∈ before, p d = false)
    (here : p c = true) (after : List Char) : cutAt p (before ++ c :: after) = some (before, after) := by
  induction before with
  | nil => simp [cutAt, here]
  | cons d before ih =>
    have first := others d List.mem_cons_self
    simp [cutAt, first, ih fun d mem => others d (List.mem_cons_of_mem _ mem)]

theorem eq_append_of_cutAt {p : Char → Bool} {cs before after : List Char}
    (cut : cutAt p cs = some (before, after)) :
    ∃ c, cs = before ++ c :: after ∧ p c = true ∧ ∀ d ∈ before, p d = false := by
  induction cs generalizing before with
  | nil => exact nomatch cut
  | cons c cs ih =>
    unfold cutAt at cut
    split at cut
    · next here =>
      obtain ⟨rfl, rfl⟩ := Prod.mk.inj (Option.some.inj cut)
      exact ⟨c, rfl, here, nofun⟩
    · next other =>
      obtain ⟨⟨a, b⟩, found, eq⟩ := Option.map_eq_some_iff.mp cut
      obtain ⟨rfl, rfl⟩ := Prod.mk.inj eq
      obtain ⟨d, rfl, here, others⟩ := ih found
      refine ⟨d, rfl, here, fun x mem => ?_⟩
      rcases List.mem_cons.mp mem with rfl | mem
      · simpa using other
      · exact others x mem

def cutAtLast (p : Char → Bool) (cs : List Char) : Option (List Char × List Char) :=
  (cutAt p cs.reverse).map fun (a, b) => (b.reverse, a.reverse)

def afterLead? : List Char → List Char → Option (List Char)
  | [], cs => some cs
  | _ :: _, [] => none
  | l :: lead, c :: cs => if l = c then afterLead? lead cs else none

theorem eq_append_of_afterLead? {lead cs rest : List Char} (h : afterLead? lead cs = some rest) :
    cs = lead ++ rest := by
  induction lead generalizing cs with
  | nil => simpa [afterLead?] using h
  | cons l lead ih =>
    cases cs with
    | nil => simp [afterLead?] at h
    | cons c cs =>
      simp only [afterLead?] at h
      split at h
      · next e => subst e; simp [ih h]
      · simp at h

theorem afterLead?_append (lead rest : List Char) : afterLead? lead (lead ++ rest) = some rest := by
  induction lead with
  | nil => rfl
  | cons l lead ih => rw [List.cons_append, afterLead?, if_pos rfl, ih]

theorem afterLead?_eq_some_iff {lead cs rest : List Char} :
    afterLead? lead cs = some rest ↔ cs = lead ++ rest := by
  constructor
  · exact eq_append_of_afterLead?
  · rintro rfl
    exact afterLead?_append lead rest

def pieces (sep : List Char) (skip : Nat) (piece : List Char) : List Char → List (List Char)
  -- `piece` is held backwards, and `skip` counts what is left of the separator just met.
  | [] => [piece.reverse]
  | c :: rest =>
    match skip with
    | skip + 1 => pieces sep skip piece rest
    | 0 =>
      if sep.isPrefixOf (c :: rest) then piece.reverse :: pieces sep (sep.length - 1) [] rest
      else pieces sep 0 (c :: piece) rest

def splitOn (sep : List Char) (cs : List Char) : List (List Char) :=
  match sep with
  | [] => [] :: (cs.map fun c => [c]) ++ [[]]
  | _ :: _ => pieces sep 0 [] cs

def replaceAll (old new : List Char) (cs : List Char) : List Char :=
  (splitOn old cs).intersperse new |>.flatten

def occursIn (word : List Char) : List Char → Bool
  | [] => word.isEmpty
  | c :: cs => word.isPrefixOf (c :: cs) || occursIn word cs

theorem occursIn_iff {word cs : List Char} : occursIn word cs = true ↔ word <:+: cs := by
  induction cs with
  | nil => simp [occursIn]
  | cons c cs ih => rw [occursIn, Bool.or_eq_true, List.isPrefixOf_iff_prefix, ih, List.infix_cons_iff]

theorem occursIn_eq_false {word cs : List Char} {c : Char} (part : c ∈ word) (absent : c ∉ cs) :
    occursIn word cs = false :=
  Bool.eq_false_iff.mpr fun occurs => absent ((occursIn_iff.mp occurs).subset part)

def joinWith (sep : String) : List String → String
  | [] => ""
  | [s] => s
  | s :: rest => s ++ sep ++ joinWith sep rest

end LiveConfig.Text
