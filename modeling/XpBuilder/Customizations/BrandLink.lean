import XpBuilder.PythonText
import XpBuilder.Library.Url

/-! Where the logo of the console leads. The tail script takes the page that launched the
console when its URL starts with the configured base of the Moodle site, and compares no
more than the characters. -/

namespace XpBuilder.BrandLink
open PythonText (orElse truthy strip)
open Url (HostParser Location)

/-- `XPBUILDER_MOODLE_URL`: `.strip().rstrip('/')` of the environment's value. -/
def moodleBase (environ : Option String) : String :=
  String.ofList ((strip (environ.getD "")).toList.rdropWhile (fun c => c = '/'))

/-- `XPBUILDER_BRAND_URL`, `/` when it is missing or empty. -/
def configured (environ : Option String) : String := orElse environ "/"

def brandTarget (moodleBase configured : String) (xpReturn : Option String) : String :=
  if moodleBase = "" then configured
  else
    match truthy xpReturn with
    | none => configured
    | some returned =>
      -- `returned.indexOf(moodleBase) === 0`
      if moodleBase.toList.isPrefixOf returned.toList then returned else configured

/-- The link leads to its configured target or to the origin of the Moodle site. -/
def Leads (H : HostParser) (page : Location) (moodleBase configured target : String) : Prop :=
  target = configured ∨ Url.SameOrigin H page target.toList moodleBase.toList

theorem brandTarget_of_append {moodleBase : String} (linked : moodleBase ≠ "") (configured : String)
    (more : List Char) :
    brandTarget moodleBase configured (some (String.ofList (moodleBase.toList ++ more))) =
      String.ofList (moodleBase.toList ++ more) := by
  have held : truthy (some (String.ofList (moodleBase.toList ++ more))) =
      some (String.ofList (moodleBase.toList ++ more)) := by
    simp [truthy, Option.filter, linked]
  unfold brandTarget
  rw [if_neg linked, held]
  simp

theorem brandTarget_cases {moodleBase configured : String} (linked : moodleBase ≠ "") (xpReturn : Option String) :
    brandTarget moodleBase configured xpReturn = configured ∨
      ∃ more, (brandTarget moodleBase configured xpReturn).toList = moodleBase.toList ++ more := by
  unfold brandTarget
  rw [if_neg linked]
  split
  · exact .inl rfl
  · rename_i returned _
    split
    · rename_i starts
      obtain ⟨more, whole⟩ := List.isPrefixOf_iff_prefix.mp starts
      exact .inr ⟨more, whole.symm⟩
    · exact .inl rfl

/-- Where the base has not settled its origin some return leads elsewhere. -/
theorem exists_elsewhere {H : HostParser} {page : Location} {moodleBase : String} (linked : moodleBase ≠ "")
    (unsettled : ¬Url.Settled H page moodleBase.toList) (configured : String) :
    ∃ xpReturn, ¬Leads H page moodleBase configured (brandTarget moodleBase configured xpReturn) := by
  obtain ⟨more, elsewhere⟩ := Url.not_settled unsettled
  -- of two such returns one is not the configured target
  obtain ⟨rest, other⟩ : ∃ rest, String.ofList (moodleBase.toList ++ (more ++ rest)) ≠ configured := by
    by_cases same : String.ofList (moodleBase.toList ++ (more ++ [])) = configured
    · refine ⟨['x'], fun again => ?_⟩
      have lengths := congrArg (fun s => s.toList.length) (same.trans again.symm)
      simp at lengths
    · exact ⟨[], same⟩
  refine ⟨some (String.ofList (moodleBase.toList ++ (more ++ rest))), fun leads => ?_⟩
  rw [brandTarget_of_append linked] at leads
  cases leads with
  | inl same => exact other same
  | inr origin =>
    rw [String.toList_ofList, ← List.append_assoc] at origin
    exact elsewhere rest origin

/-- No return leads elsewhere exactly when no Moodle site is configured or its base settles
its origin before it ends. -/
theorem leads_iff_settled (H : HostParser) (page : Location) (moodleUrl brandUrl : Option String) :
    (∀ xpReturn, Leads H page (moodleBase moodleUrl) (configured brandUrl)
      (brandTarget (moodleBase moodleUrl) (configured brandUrl) xpReturn)) ↔
      (moodleBase moodleUrl = "" ∨ Url.Settled H page (moodleBase moodleUrl).toList) := by
  constructor
  · intro leads
    by_contra open_
    rw [not_or] at open_
    obtain ⟨xpReturn, elsewhere⟩ := exists_elsewhere open_.1 open_.2 (configured brandUrl)
    exact elsewhere (leads xpReturn)
  · intro closed xpReturn
    by_cases linked : moodleBase moodleUrl = ""
    · left
      rw [brandTarget, if_pos linked]
    · have settled := closed.resolve_left linked
      cases brandTarget_cases linked xpReturn with
      | inl same => exact .inl same
      | inr starts =>
        obtain ⟨more, whole⟩ := starts
        right
        rw [whole]
        exact settled.append more

/-- The base of a site at the root of its host always leads on to others. -/
theorem elsewhere_of_host (H : HostParser) (page : Location) {moodleUrl : Option String} {authority : List Char}
    (base : (moodleBase moodleUrl).toList = "https://".toList ++ authority) (nonempty : authority ≠ [])
    (plain : ∀ c ∈ authority, Url.isJunk c = false ∧ Url.isEnd "https" c = false) (brandUrl : Option String) :
    ∃ xpReturn, ¬Leads H page (moodleBase moodleUrl) (configured brandUrl)
      (brandTarget (moodleBase moodleUrl) (configured brandUrl) xpReturn) := by
  have linked : moodleBase moodleUrl ≠ "" := by
    intro empty
    rw [empty] at base
    cases base
  apply exists_elsewhere linked
  intro settled
  obtain ⟨o, state⟩ := settled
  rw [base, Url.stateAfter_authority nonempty plain] at state
  cases state

theorem toLower_of_isLower {c : Char} (lower : c.isLower = true) : c.toLower = c := by
  have range : (decide ('a'.val ≤ c.val) && decide (c.val ≤ 'z'.val)) = true := lower
  have least : 'a'.val ≤ c.val := of_decide_eq_true (Bool.and_eq_true_iff.mp range).1
  unfold Char.toLower
  rw [dif_neg]
  intro upper
  have value := UInt32.le_iff_toNat_le.mp (UInt32.le_trans least upper.2)
  exact absurd value (by decide)

/-- Host names of ASCII letters, digits, dots and hyphens, in lower case. -/
def asciiHosts : HostParser where
  parse _ name :=
    if name.all (fun c => c.isAlphanum || c = '.' || c = '-') then some (String.ofList (name.map Char.toLower))
    else none
  words := by
    intro isOpaque name _ lower
    have letters : name.all (fun c => c.isAlphanum || c = '.' || c = '-') = true := by
      rw [List.all_eq_true]
      intro c mem
      have word : c.isAlphanum = true := by
        show ((c.isUpper || c.isLower) || c.isDigit) = true
        rw [lower c mem, Bool.or_true, Bool.true_or]
      rw [word, Bool.true_or, Bool.true_or]
    have same : name.map Char.toLower = name := by
      rw [List.map_congr_left (fun c mem => toLower_of_isLower (lower c mem)), List.map_id']
    rw [if_pos letters, same]
  at_sign := by
    intro name mem
    have other : name.all (fun c => c.isAlphanum || c = '.' || c = '-') = false := by
      rw [List.all_eq_false]
      exact ⟨'@', mem, by decide⟩
    rw [if_neg (by simp [other])]

/-- The console on a host of its own. -/
def console : Location := ⟨true, "bi.example.com", none⟩

/-- The base ends before the host does. -/
theorem lookalike_followed :
    moodleBase (some "https://lms.example.com/") = "https://lms.example.com" ∧
    brandTarget "https://lms.example.com" (configured none) (some "https://lms.example.com.evil.org/") =
      "https://lms.example.com.evil.org/" ∧
    Url.origin asciiHosts console "https://lms.example.com.evil.org/".toList =
      some ⟨"https", some "lms.example.com.evil.org", none⟩ ∧
    ¬Leads asciiHosts console "https://lms.example.com" (configured none) "https://lms.example.com.evil.org/" := by
  have there : Url.origin asciiHosts console "https://lms.example.com.evil.org/".toList =
      some ⟨"https", some "lms.example.com.evil.org", none⟩ := by decide
  have home : Url.origin asciiHosts console "https://lms.example.com".toList =
      some ⟨"https", some "lms.example.com", none⟩ := by decide
  refine ⟨by decide, by decide, there, fun leads => ?_⟩
  cases leads with
  | inl same => exact absurd same (by decide)
  | inr origin =>
    obtain ⟨o, left, right⟩ := origin
    rw [there] at left
    rw [home, ← left] at right
    exact absurd right (by decide)

end XpBuilder.BrandLink
