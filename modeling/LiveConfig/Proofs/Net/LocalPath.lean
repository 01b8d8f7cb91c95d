import LiveConfig.Net.Url
import LiveConfig.Proofs.Text.Letters
import LiveConfig.Proofs.Text.Percent
import Mathlib.Algebra.GroupWithZero.Nat
import Mathlib.Data.List.TakeDrop

/-!
The local path of a file locator, read back from its text.

A path is read segment by segment, and some segments are dropped.  So it has no more percent signs and blanks
than its text, and fewer if its text has two slashes in front of what is read: the second slash of such a path
was written with a percent sign.
-/
namespace LiveConfig.Net

open Text

def signs (cs : List Char) : Nat := cs.countP isSign

theorem signs_le_of_sublist {cs ds : List Char} (h : cs.Sublist ds) : signs cs ≤ signs ds := h.countP_le

def weights (parts : List (List Char)) : Nat := (parts.map fun part => weight (percentDecode part)).sum

@[simp] theorem weights_nil : weights [] = 0 := rfl

@[simp] theorem weights_cons (part : List Char) (parts : List (List Char)) :
    weights (part :: parts) = weight (percentDecode part) + weights parts := rfl

private theorem weights_append (parts more : List (List Char)) :
    weights (parts ++ more) = weights parts + weights more := by
  simp [weights]

private theorem weights_reverse (parts : List (List Char)) : weights parts.reverse = weights parts := by
  unfold weights
  rw [List.map_reverse, List.sum_reverse]

namespace UrlText

private theorem keepsPercent_escapesPath : KeepsPercent escapesPath where
  percent := by decide
  digits := by
    intro c x digit
    have all : ∀ n < 0x67, 0x30 ≤ n → (hexDigit? (Char.ofNat n)).isSome → escapesPath (Char.ofNat n) = false := by
      decide
    obtain ⟨least, most⟩ := toNat_of_hexDigit? digit
    have here := all c.toNat (by omega) least
    rw [Char.ofNat_toNat] at here
    exact here (Option.isSome_of_eq_some digit)

def Solid (part : List Char) : Prop := '/' ∉ part

private theorem solid_percentEncode {cs : List Char} (plain : ∀ c ∈ cs, c ≠ '/' ∧ c ≠ '\\') :
    Solid (percentEncode escapesPath cs) := by
  intro mem
  obtain ⟨c, inside, mem⟩ := List.mem_flatMap.mp mem
  unfold percentEncodeChar at mem
  split at mem
  · obtain ⟨b, -, mem⟩ := List.mem_flatMap.mp mem
    rcases List.mem_cons.mp mem with eq | mem
    · exact absurd eq (by decide)
    · obtain ⟨high, low, eq, first, second⟩ := hexDigit?_hexUpper b
      have slash : hexDigit? '/' = none := by decide
      simp only [eq, List.mem_cons, List.not_mem_nil, or_false] at mem
      rcases mem with rfl | rfl
      · exact nomatch slash.symm.trans first
      · exact nomatch slash.symm.trans second
  · exact (plain c inside).1 (List.mem_singleton.mp mem).symm

private theorem drive_light {c : Char} (alpha : c.isAlpha = true) :
    weight (percentDecode [c, ':']) = 0 ∧ Solid [c, ':'] := by
  have other : ∀ d : Char, d.isAlpha = false → c ≠ d := by
    rintro d none_there rfl
    exact nomatch none_there.symm.trans alpha
  have unsigned : isSign c = false := by
    unfold isSign
    rw [Bool.or_eq_false_iff, decide_eq_false_iff_not, decide_eq_false_iff_not]
    exact ⟨other '%' (by decide), other ' ' (by decide)⟩
  constructor
  · rw [percentDecode_cons _ (other '%' (by decide)),
      weight_utf8EncodeChar_append (other '/' (by decide)) (other '\\' (by decide)), unsigned]
    decide
  · unfold Solid
    simp [(other '/' (by decide)).symm]

private theorem exists_of_isDriveLetter {part : List Char} (drive : isDriveLetter part = true) :
    ∃ c d, part = [c, d] ∧ c.isAlpha = true := by
  unfold isDriveLetter at drive
  split at drive
  · next c d => exact ⟨c, d, rfl, (Bool.and_eq_true_iff.mp drive).1⟩
  · exact nomatch drive

/-- A segment is kept as the last one, or behind a slash as one that is finished. -/
private theorem kept_weights {finished : List (List Char)} {part : List Char} {most : Nat} (slash : Bool)
    (le : weight (percentDecode part) ≤ most) (clear : Solid part) (solid : ∀ part ∈ finished, Solid part) :
    let ended := if slash then (part :: finished, []) else (finished, part)
    weights (ended.2 :: ended.1) ≤ weights finished + most ∧ ∀ part ∈ ended.2 :: ended.1, Solid part := by
  cases slash with
  | false =>
    refine ⟨?_, List.forall_mem_cons.mpr ⟨clear, solid⟩⟩
    simp only [weights_cons, Bool.false_eq_true, if_false]
    omega
  | true =>
    refine ⟨?_, List.forall_mem_cons.mpr ⟨List.not_mem_nil, List.forall_mem_cons.mpr ⟨clear, solid⟩⟩⟩
    have none_there : weight (percentDecode []) = 0 := rfl
    simp only [weights_cons, none_there, if_true]
    omega

/-- The end of a segment. -/
theorem endSegment_weights {finished : List (List Char)} {cs : List Char} (slash : Bool)
    (plain : ∀ c ∈ cs, c ≠ '/' ∧ c ≠ '\\') (solid : ∀ part ∈ finished, Solid part) :
    let ended := endSegment .file finished (percentEncode escapesPath cs) slash
    weights (ended.2 :: ended.1) ≤ weights finished + signs cs ∧ ∀ part ∈ ended.2 :: ended.1, Solid part := by
  have light := weight_percentDecode_le keepsPercent_escapesPath plain
  have clear := solid_percentEncode plain
  have empty : Solid [] := List.not_mem_nil
  have none_there : weight (percentDecode []) = 0 := rfl
  unfold endSegment
  split
  · split
    · exact ⟨Nat.zero_le _, fun part mem => List.mem_singleton.mp mem ▸ empty⟩
    · next last before =>
      split
      · refine ⟨?_, List.forall_mem_cons.mpr ⟨empty, solid⟩⟩
        simp only [weights_cons, none_there]
        omega
      · refine ⟨?_, List.forall_mem_cons.mpr ⟨empty, fun part mem => solid part (List.mem_cons_of_mem _ mem)⟩⟩
        simp only [weights_cons, none_there]
        omega
  · split
    · refine ⟨?_, List.forall_mem_cons.mpr ⟨empty, solid⟩⟩
      simp only [weights_cons, none_there]
      omega
    · -- A drive letter is written with a colon; any other segment stays as it is.
      refine kept_weights slash ?_ ?_ solid
      · split
        · next drive =>
          obtain ⟨c, d, two, alpha⟩ := exists_of_isDriveLetter (Bool.and_eq_true_iff.mp drive).2
          rw [two]
          exact (drive_light alpha).1 ▸ Nat.zero_le _
        · exact light
      · split
        · next drive =>
          obtain ⟨c, d, two, alpha⟩ := exists_of_isDriveLetter (Bool.and_eq_true_iff.mp drive).2
          rw [two]
          exact (drive_light alpha).2
        · exact clear

/-- What is read of a path. -/
theorem readPath_weights (finished : List (List Char)) (passed cs : List Char)
    (plain : ∀ c ∈ passed, c ≠ '/' ∧ c ≠ '\\') (solid : ∀ part ∈ finished, Solid part) :
    ∃ parts, readPath .file finished (percentEncode escapesPath passed).reverse cs =
        parts.flatMap (fun part => '/' :: part) ∧
      (∀ part ∈ parts, Solid part) ∧ weights parts ≤ weights finished + signs passed + signs cs := by
  induction cs generalizing finished passed with
  | nil =>
    obtain ⟨le, all⟩ := endSegment_weights false plain solid
    simp only [readPath, List.reverse_reverse]
    generalize endSegment .file finished (percentEncode escapesPath passed) false = ended at le all
    refine ⟨ended.1.reverse ++ [ended.2], by simp, ?_, ?_⟩
    · intro part mem
      apply all
      simpa [or_comm] using mem
    · rw [weights_append, weights_reverse]
      simp only [weights_cons, weights_nil] at le ⊢
      simp only [signs, List.countP_nil]
      unfold signs at le
      omega
  | cons c cs ih =>
    unfold readPath
    split
    · obtain ⟨le, all⟩ := endSegment_weights true plain solid
      rw [List.reverse_reverse]
      obtain ⟨parts, eq, clear, le'⟩ := ih
        (endSegment .file finished (percentEncode escapesPath passed) true).1 [] (by simp) fun part mem => all part (List.mem_cons_of_mem _ mem)
      refine ⟨parts, eq, clear, ?_⟩
      have none_more : signs cs ≤ signs (c :: cs) := signs_le_of_sublist (List.sublist_cons_self c cs)
      simp only [weights_cons, show signs [] = 0 from rfl] at le le'
      omega
    · next other =>
      simp only [SchemeClass.isSpecial, Bool.or_eq_true, Bool.and_eq_true, decide_eq_true_eq, not_or] at other
      have all : ∀ d ∈ passed ++ [c], d ≠ '/' ∧ d ≠ '\\' := by
        intro d mem
        rcases List.mem_append.mp mem with mem | mem
        · exact plain d mem
        · obtain rfl := List.mem_singleton.mp mem
          exact ⟨other.1, fun backslash => other.2 ⟨nofun, backslash⟩⟩
      obtain ⟨parts, eq, clear, le⟩ := ih finished (passed ++ [c]) all solid
      refine ⟨parts, ?_, clear, ?_⟩
      · rw [← eq]
        simp [percentEncode]
      · unfold signs at le ⊢
        rw [List.countP_append, List.countP_singleton] at le
        rw [List.countP_cons]
        omega

def slashed (parts : List (List Char)) : List Char := parts.flatMap fun part => '/' :: part

private theorem countP_percentDecode_append (cs : List Char) (parts : List (List Char)) :
    ∃ bs, percentDecode (cs ++ slashed parts) = percentDecode cs ++ bs ∧
      bs.countP isSignByte ≤ weights parts := by
  induction parts generalizing cs with
  | nil => exact ⟨[], by simp [slashed], Nat.le_refl _⟩
  | cons part parts ih =>
    obtain ⟨bs, eq, le⟩ := ih part
    refine ⟨0x2F :: (percentDecode part ++ bs), ?_, ?_⟩
    · rw [← eq, ← percentDecode_append_slash]
      rfl
    · rw [List.countP_cons, List.countP_append, weights_cons]
      have most := le_weight (percentDecode part)
      have slash : isSignByte 0x2F = false := by decide
      simp only [slash, Bool.false_eq_true, if_false]
      omega

/-- A path without the slashes at its front. -/
private theorem weight_dropWhile_le {parts : List (List Char)} (solid : ∀ part ∈ parts, Solid part) :
    weight (percentDecode ((slashed parts).dropWhile (· = '/'))) ≤ weights parts := by
  induction parts with
  | nil => exact Nat.le_refl _
  | cons part parts ih =>
    have later := ih fun other mem => solid other (List.mem_cons_of_mem _ mem)
    have eq : slashed (part :: parts) = '/' :: (part ++ slashed parts) := rfl
    rw [eq, List.dropWhile_cons_of_pos (by simp)]
    cases part with
    | nil =>
      rw [List.nil_append, weights_cons]
      omega
    | cons c cs =>
      have other : c ≠ '/' := fun slash => solid _ List.mem_cons_self (slash ▸ List.mem_cons_self)
      obtain ⟨bs, eq, le⟩ := countP_percentDecode_append (c :: cs) parts
      rw [List.cons_append, List.dropWhile_cons_of_neg (by simpa using other), ← List.cons_append, eq, weights_cons]
      obtain ⟨b, more, first⟩ := exists_cons_percentDecode (List.cons_ne_nil c cs)
      rw [first, List.cons_append, weight_cons, weight_cons, List.countP_append]
      omega

end UrlText

open UrlText

/-- The bytes of a path, segment by segment. -/
private theorem flatMap_splitOn_slash (body : List Char) :
    (splitOn ['/'] body).flatMap (fun part => 0x2F :: percentDecode part) = 0x2F :: percentDecode body := by
  have all : ∀ piece cs : List Char, (pieces ['/'] 0 piece cs).flatMap (fun part => 0x2F :: percentDecode part) =
      0x2F :: percentDecode (piece.reverse ++ cs) := by
    intro piece cs
    induction cs generalizing piece with
    | nil => simp [pieces]
    | cons c cs ih =>
      by_cases slash : c = '/'
      · subst slash
        have front : ['/'].isPrefixOf ('/' :: cs) = true := rfl
        simp only [pieces, front, if_true, List.flatMap_cons]
        rw [show ['/'].length - 1 = 0 from rfl, ih [], percentDecode_append_slash]
        rfl
      · have front : ['/'].isPrefixOf (c :: cs) = false := by simp [List.isPrefixOf, Ne.symm slash]
        simp only [pieces, front, Bool.false_eq_true, if_false]
        rw [ih (c :: piece)]
        simp
  exact all [] body

private theorem exists_body_of_pathOf (front : List Char) :
    ∃ body, pathOf .file front = '/' :: body ∧ weight (percentDecode body) ≤ signs front := by
  have read : ∀ cs : List Char, weight (percentDecode ((readPath .file [] [] cs).dropWhile (· = '/'))) ≤ signs cs := by
    intro cs
    obtain ⟨parts, eq, solid, le⟩ := readPath_weights [] [] cs (by simp) (by simp)
    rw [show readPath .file [] [] cs = slashed parts from eq]
    have lighter := weight_dropWhile_le solid
    simp only [weights_nil, show signs [] = 0 from rfl] at le
    omega
  refine ⟨_, rfl, ?_⟩
  unfold rawPath
  split
  · next c rest =>
    split
    · exact Nat.le_trans (read rest) (signs_le_of_sublist (List.sublist_cons_self c rest))
    · exact read _
  · exact read []

/-- A path on this machine was read from a text with as many percent signs and blanks, or with more of them if
the path begins with two slashes. -/
theorem localPath?_light {u : Url} {front path : List Char} (read : u.path = pathOf .file front)
    (found : u.localPath? = some path) :
    ∃ rest, path = '/' :: rest ∧
      ∀ c more, rest = c :: more → c = '/' ∨ c = '\\' → signs rest < signs front := by
  obtain ⟨body, eq, light⟩ := exists_body_of_pathOf front
  unfold Url.localPath? at found
  rw [read, eq] at found
  simp only [flatMap_splitOn_slash] at found
  split at found
  · exact nomatch found
  · -- A slash is added only behind a drive letter, so some bytes stand before it.
    have behind : ∃ tail, path = '/' :: decodeLossy (percentDecode body ++ tail) ∧
        tail.countP isSignByte = 0 ∧ (percentDecode body = [] → tail = []) := by
      have front : ∀ bs, decodeLossy (0x2F :: bs) = '/' :: decodeLossy bs := fun bs => decodeLossy_cons bs (by decide)
      obtain rfl := Option.some.inj found
      cases there : percentDecode body with
      | nil => exact ⟨[], front [], rfl, fun _ => rfl⟩
      | cons d bytes =>
        rw [apply_ite decodeLossy, List.cons_append, front, front]
        have either : ∀ drive : Bool, ∃ tail, (if drive = true then '/' :: decodeLossy (d :: bytes ++ [0x2F])
              else '/' :: decodeLossy (d :: bytes)) = '/' :: decodeLossy (d :: bytes ++ tail) ∧
            tail.countP isSignByte = 0 ∧ (d :: bytes = [] → tail = []) := by
          rintro (_ | _)
          · exact ⟨[], by rw [List.append_nil]; rfl, rfl, nofun⟩
          · exact ⟨[0x2F], rfl, by decide, nofun⟩
        exact either _
    obtain ⟨tail, rfl, unsigned, whole⟩ := behind
    refine ⟨_, rfl, fun c more first slash => ?_⟩
    have ascii : c.toNat < 0x80 ∧ c.toNat ≠ 0 := by rcases slash with rfl | rfl <;> decide
    obtain ⟨b, bytes, eq, bound, same⟩ := exists_byte_of_decodeLossy first ascii.1 ascii.2
    have slash_byte : isSlashByte b = true := by
      have all : ∀ n < 0x80, Char.ofNat n = '/' ∨ Char.ofNat n = '\\' → isSlashByte (UInt8.ofNat n) = true := by
        decide
      have here := all b.toNat bound (same ▸ slash)
      rwa [UInt8.ofNat_toNat] at here
    have read := countP_decodeLossy_le (percentDecode body ++ tail)
    rw [List.countP_append, unsigned] at read
    cases there : percentDecode body with
    | nil =>
      rw [there, whole there] at eq
      exact nomatch eq
    | cons d bytes' =>
      rw [there] at eq light
      obtain ⟨rfl, -⟩ := List.cons.inj eq
      rw [there] at read
      unfold weight at light
      rw [List.head?_cons, Option.any_some, slash_byte, if_pos rfl] at light
      exact Nat.lt_of_le_of_lt read light

private theorem signs_splitTail_le (cs : List Char) : signs (splitTail cs).1 ≤ signs cs := by
  have cut_le : ∀ {p : Char → Bool} {cs before after : List Char}, cutAt p cs = some (before, after) →
      signs before ≤ signs cs := by
    intro p cs before after cut
    obtain ⟨c, rfl, -, -⟩ := eq_append_of_cutAt cut
    exact signs_le_of_sublist (List.sublist_append_left before (c :: after))
  unfold splitTail
  cases fragment : cutAt (· = '#') cs with
  | none =>
    cases query : cutAt (· = '?') cs with
    | none => simp [query]
    | some parts => simpa [query] using cut_le query
  | some parts =>
    obtain ⟨front, rest⟩ := parts
    cases query : cutAt (· = '?') front with
    | none => simpa [query] using cut_le fragment
    | some parts => simpa [query] using Nat.le_trans (cut_le query) (cut_le fragment)

/-- A file locator has a path that was read from its text. -/
theorem parseFile_path {cs : List Char} {u : Url} (parsed : parseFile cs = .ok u) :
    ∃ front, u.path = pathOf .file front ∧ signs front ≤ signs cs := by
  have read : ∀ {v : Url} {text : List Char}, v.path = pathOf .file (splitTail text).1 → text.Sublist cs →
      ∃ front, v.path = pathOf .file front ∧ signs front ≤ signs cs := fun eq within =>
    ⟨_, eq, Nat.le_trans (signs_splitTail_le _) (signs_le_of_sublist within)⟩
  unfold parseFile at parsed
  split at parsed
  · next a b rest =>
    have rest_within : rest.Sublist (a :: b :: rest) :=
      (List.sublist_cons_self b rest).trans (List.sublist_cons_self a _)
    have after_within : (spanAuthority true rest).2.Sublist (a :: b :: rest) := by
      refine List.Sublist.trans ?_ rest_within
      unfold spanAuthority
      rw [List.span_eq_takeWhile_dropWhile]
      exact List.dropWhile_sublist _
    dsimp only at parsed
    split at parsed
    · split at parsed
      · obtain rfl := Except.ok.inj parsed
        exact read rfl rest_within
      · split at parsed
        · obtain rfl := Except.ok.inj parsed
          exact read rfl after_within
        · split at parsed
          · exact nomatch parsed
          · split at parsed
            all_goals
              obtain rfl := Except.ok.inj parsed
              exact read rfl after_within
    · obtain rfl := Except.ok.inj parsed
      exact read rfl (List.Sublist.refl _)
  · obtain rfl := Except.ok.inj parsed
    exact read rfl (List.Sublist.refl _)

/-- Nothing is left out of a locator without blanks and controls. -/
theorem parse_of_clear {c : Char} {cs rest : List Char} (alpha : c.isAlpha = true)
    (letters : (cs.all fun c => c.isAlphanum || c = '+' || c = '-' || c = '.') = true)
    (clear : ∀ d ∈ rest, 0x20 < d.toNat) :
    Url.parse (c :: cs ++ ':' :: rest) =
      parseRest (SchemeClass.ofScheme ((c :: cs).map Char.toLower)) ((c :: cs).map Char.toLower) rest := by
  have name_clear : ∀ d ∈ c :: cs, 0x20 < d.toNat ∧ d.toNat < 0x80 ∧ d ≠ ':' := by
    intro d mem
    rcases List.mem_cons.mp mem with rfl | mem
    · exact Text.toNat_of_letter (by simp [Text.isAlphanum_iff.mpr (.inl alpha)])
    · exact Text.toNat_of_letter (List.all_eq_true.mp letters d mem)
  have all_clear : ∀ d ∈ c :: cs ++ ':' :: rest, 0x20 < d.toNat := by
    intro d mem
    rcases List.mem_append.mp mem with mem | mem
    · exact (name_clear d mem).1
    · rcases List.mem_cons.mp mem with rfl | mem
      · decide
      · exact clear d mem
  have edge : ∀ ds : List Char, (∀ d ∈ ds, 0x20 < d.toNat) → ds.dropWhile (fun d => d.toNat ≤ 0x20) = ds := by
    intro ds large
    cases ds with
    | nil => rfl
    | cons d ds => exact List.dropWhile_cons_of_neg (by simpa using large d List.mem_cons_self)
  have body : (dropEndWhile (fun d : Char => d.toNat ≤ 0x20)
      ((c :: cs ++ ':' :: rest).dropWhile fun d => d.toNat ≤ 0x20)).filter
        (fun d => !(d = '\t' || d = '\n' || d = '\r')) = c :: cs ++ ':' :: rest := by
    unfold dropEndWhile
    rw [edge _ all_clear, edge _ fun d mem => all_clear d (List.mem_reverse.mp mem), List.reverse_reverse]
    refine List.filter_eq_self.mpr fun d mem => ?_
    have large := all_clear d mem
    simp only [Bool.not_eq_true', Bool.or_eq_false_iff, decide_eq_false_iff_not]
    refine ⟨⟨?_, ?_⟩, ?_⟩ <;> rintro rfl <;> revert large <;> decide
  have cut : cutAt (· = ':') (c :: cs ++ ':' :: rest) = some (c :: cs, rest) :=
    cutAt_append (fun d mem => by simpa using (name_clear d mem).2.2) (by decide) rest
  unfold Url.parse
  dsimp only
  rw [body]
  unfold splitScheme
  rw [cut]
  simp only [alpha, letters, Bool.and_self, if_true]

end LiveConfig.Net
