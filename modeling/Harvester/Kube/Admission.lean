import Harvester.Kube.Basic

/-!
# Admission

The errors of the validating webhooks and the name checks they share.
-/

namespace Harvester

/-- The reason of a rejection, with its HTTP code. -/
inductive AdmitReason where
  /-- 400 -/
  | badRequest
  /-- 403 -/
  | forbidden
  /-- 409 -/
  | conflict
  /-- 422 -/
  | invalid
  /-- 500 -/
  | internalError
  deriving DecidableEq, Repr

/-- A rejection by a webhook (`AdmitError`); only an invalid object names a field. -/
structure AdmitError where
  reason : AdmitReason
  message : String
  field : Option String
  deriving DecidableEq, Repr

namespace AdmitError

/-- `NewBadRequest`. -/
def badRequest (message : String) : AdmitError := ⟨.badRequest, message, none⟩

/-- `NewInvalidError`. -/
def invalid (message field : String) : AdmitError := ⟨.invalid, message, some field⟩

/-- `NewConflict`. -/
def conflict (message : String) : AdmitError := ⟨.conflict, message, none⟩

/-- `NewInternalError`; also what becomes of every other error that a validator returns. -/
def internal (message : String) : AdmitError := ⟨.internalError, message, none⟩

/-- `NewForbidden`; the field is not used. -/
def forbidden (message : String) : AdmitError := ⟨.forbidden, message, none⟩

end AdmitError

/-- Reject the object when the condition holds. -/
def rejectIf (b : Bool) (e : AdmitError) : Except AdmitError Unit := if b then .error e else .ok ()

@[simp] theorem rejectIf_eq_ok {b : Bool} {e : AdmitError} :
    rejectIf b e = .ok () ↔ b = false := by
  cases b <;> simp [rejectIf]

/-- Check the elements of a list in turn. -/
def checkEach {ε α : Type} (check : α → Except ε Unit) : List α → Except ε Unit
  | [] => .ok ()
  | x :: xs => do
    check x
    checkEach check xs

theorem checkEach_eq_ok {ε α : Type} {check : α → Except ε Unit} {xs : List α} :
    checkEach check xs = .ok () ↔ ∀ x ∈ xs, check x = .ok () := by
  induction xs with
  | nil => simp [checkEach]
  | cons x xs ih => rw [checkEach, Control.except_bind_unit_eq_ok, ih, List.forall_mem_cons]

/-- A name in quotes (`%q`). -/
def quoted (s : String) : String := "\"" ++ s ++ "\""

/-- `[a-z0-9]`. -/
def isLowerAlphanum (c : Char) : Bool := c.isLower || c.isDigit

/-- `[a-z0-9]([-a-z0-9]*[a-z0-9])?`. -/
def isDNS1123Label (cs : List Char) : Bool :=
  cs.all (fun c => isLowerAlphanum c || c = '-') && cs.head?.any isLowerAlphanum &&
    cs.getLast?.any isLowerAlphanum

/-- `validation.IsDNS1123Subdomain` has no complaint. -/
def isDNS1123Subdomain (value : String) : Bool :=
  value.length ≤ 253 && (value.toList.splitOn '.').all isDNS1123Label

/-- `strings.SplitN(s, "/", 2)` when there is a separator. -/
def splitSlash (s : String) : Option (String × String) :=
  match s.toList.span (· ≠ '/') with
  | (_, []) => none
  | (a, _ :: b) => some (String.ofList a, String.ofList b)

/-- `util.SplitNamespacedName`; a string that is not a namespaced name gives two empty names. -/
def splitNamespacedName (s : String) : Key :=
  if s = "" || s.toList.head? = some '/' || s.toList.getLast? = some '/' then ⟨"", ""⟩
  else match splitSlash s with
    | none => ⟨"", s⟩
    | some (ns, name) => ⟨ns, name⟩

theorem mem_intercalate_singleton {α : Type} {a sep : α} {parts : List (List α)}
    (h : a ∈ [sep].intercalate parts) : a = sep ∨ ∃ part ∈ parts, a ∈ part := by
  induction parts with
  | nil => simp at h
  | cons part parts ih =>
    rcases parts with _ | ⟨next, parts⟩
    · exact .inr ⟨part, by simp, by simpa using h⟩
    rw [List.intercalate_cons_cons, List.append_assoc, List.mem_append, List.mem_append,
      List.mem_singleton] at h
    rcases h with h | h | h
    · exact .inr ⟨part, by simp, h⟩
    · exact .inl h
    · exact (ih h).imp_right fun ⟨p, hp, hap⟩ => ⟨p, List.mem_cons_of_mem _ hp, hap⟩

theorem notMem_of_isDNS1123Label {cs : List Char} (h : isDNS1123Label cs = true) {c : Char}
    (hc : isLowerAlphanum c = false) (hhyphen : c ≠ '-') : c ∉ cs := by
  intro hmem
  simp only [isDNS1123Label, Bool.and_eq_true, List.all_eq_true] at h
  simpa [hc, hhyphen] using h.1.1 c hmem

theorem notMem_of_isDNS1123Subdomain {value : String} (h : isDNS1123Subdomain value = true)
    {c : Char} (hc : isLowerAlphanum c = false) (hhyphen : c ≠ '-') (hdot : c ≠ '.') :
    c ∉ value.toList := by
  intro hmem
  simp only [isDNS1123Subdomain, Bool.and_eq_true, List.all_eq_true] at h
  have hjoin : ['.'].intercalate (value.toList.splitOn '.') = value.toList :=
    List.intercalate_splitOn '.'
  rw [← hjoin] at hmem
  obtain hsep | ⟨part, hpart, hmem⟩ := mem_intercalate_singleton hmem
  · exact hdot hsep
  · exact notMem_of_isDNS1123Label (h.2 part hpart) hc hhyphen hmem

/-- A key as the API server accepts it. -/
def Key.isValid (k : Key) : Bool := isDNS1123Label k.ns.toList && isDNS1123Subdomain k.name

theorem Key.notMem_text {k : Key} (h : k.isValid = true) : '+' ∉ k.text.toList := by
  simp only [Key.isValid, Bool.and_eq_true] at h
  have hns := notMem_of_isDNS1123Label h.1 (c := '+') (by decide) (by decide)
  have hname := notMem_of_isDNS1123Subdomain h.2 (c := '+') (by decide) (by decide) (by decide)
  simp [Key.text, hns, hname]

theorem Key.eq_of_text_eq {k k' : Key} (h : k.isValid = true) (htext : k.text = k'.text) :
    k = k' := by
  simp only [Key.isValid, Bool.and_eq_true] at h
  have hns := notMem_of_isDNS1123Label h.1 (c := '/') (by decide) (by decide)
  have hname := notMem_of_isDNS1123Subdomain h.2 (c := '/') (by decide) (by decide) (by decide)
  have hchars : k.ns.toList ++ '/' :: k.name.toList = k'.ns.toList ++ '/' :: k'.name.toList := by
    simpa [Key.text] using congrArg String.toList htext
  obtain ⟨hns, -, hname⟩ := (List.append_cons_inj_of_notMem hns hname).1 hchars
  exact congrArg₂ Key.mk (String.toList_inj.1 hns) (String.toList_inj.1 hname)

/-- What a `SubjectAccessReview` says about a user's `get` on an object. -/
abbrev AccessReview := String → Key → Except Err Bool

end Harvester
