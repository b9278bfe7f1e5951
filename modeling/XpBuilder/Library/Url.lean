import Mathlib.Data.List.DropRight
import Mathlib.Data.List.Induction

/-! How a browser finds the scheme, host and port of a URL that a page links to: the URL
parser as a machine that reads one character after the other, up to the point where nothing
that follows can change them. Of the host parser only a few facts are used. -/

namespace XpBuilder.Url

/-! ## Hosts and ports -/

structure Origin where
  scheme : String
  host : Option String
  port : Option Nat
  deriving DecidableEq, Repr

/-- The host parser, told whether the host is opaque. A word of lower-case letters is a name
of its own, and no host of a special scheme has an at sign. -/
structure HostParser where
  parse : Bool → List Char → Option String
  words : ∀ isOpaque name, name ≠ [] → (∀ c ∈ name, c.isLower) → parse isOpaque name = some (String.ofList name)
  at_sign : ∀ name, '@' ∈ name → parse false name = none

/-- The page that holds the link, served over HTTP or HTTPS. -/
structure Location where
  secure : Bool
  host : String
  port : Option Nat
  deriving DecidableEq, Repr

def Location.scheme (page : Location) : String := if page.secure then "https" else "http"

def Location.origin (page : Location) : Origin := ⟨page.scheme, some page.host, page.port⟩

def defaultPort : String → Option Nat
  | "ftp" => some 21
  | "http" => some 80
  | "https" => some 443
  | "ws" => some 80
  | "wss" => some 443
  | _ => none

def isSpecial (scheme : String) : Bool := scheme ∈ ["ftp", "file", "http", "https", "ws", "wss"]

def isSlash (c : Char) : Bool := c = '/' || c = '\\'

/-- The end of an authority. -/
def isEnd (scheme : String) (c : Char) : Bool :=
  c = '/' || c = '?' || c = '#' || (isSpecial scheme && c = '\\')

/-- The host up to the first colon outside brackets, and what follows the colon. -/
def splitPort : Bool → List Char → List Char × Option (List Char)
  | _, [] => ([], none)
  | inside, c :: rest =>
    if c = ':' && !inside then ([], some rest)
    else
      let (host, port) := splitPort (if c = '[' then true else if c = ']' then false else inside) rest
      (c :: host, port)

def decimal (digits : List Char) : Nat := digits.foldl (fun n c => 10 * n + (c.toNat - 48)) 0

/-- The port of a scheme, none when it is the default. -/
def portOf (scheme : String) (digits : List Char) : Option (Option Nat) :=
  if digits = [] then some none
  else if digits.all Char.isDigit && decimal digits ≤ 65535 then
    some (if defaultPort scheme = some (decimal digits) then none else some (decimal digits))
  else none

/-- What a whole authority says: the part after its last at sign is the host and the port. -/
def authorityOrigin (H : HostParser) (scheme : String) (authority : List Char) : Option Origin :=
  let hostPort := authority.rtakeWhile (fun c => c ≠ '@')
  let (host, port) := splitPort false hostPort
  if hostPort = [] && authority.contains '@' then none
  else if host = [] && (isSpecial scheme || port.isSome) then none
  else do
    let name ← H.parse (!isSpecial scheme) host
    let number ← portOf scheme (port.getD [])
    some ⟨scheme, some name, number⟩

def isDriveLetter : List Char → Bool
  | [letter, mark] => letter.isAlpha && (mark = ':' || mark = '|')
  | _ => false

def fileOrigin (H : HostParser) (host : List Char) : Option Origin :=
  if host = [] || isDriveLetter host then some ⟨"file", some "", none⟩
  else (H.parse false host).map (fun name => ⟨"file", some (if name = "localhost" then "" else name), none⟩)

/-! ## The machine -/

/-- What has been read; `done` once the origin is settled, to none for a URL that fails. -/
inductive State where
  | start
  | scheme (buffer : List Char)
  | relative
  | relativeSlash
  | slashes (scheme : String)
  | authority (scheme : String) (buffer : List Char)
  | path (scheme : String)
  | pathSlash (scheme : String)
  | file
  | fileSlash
  | fileHost (buffer : List Char)
  | done (origin : Option Origin)
  deriving DecidableEq

/-- C0 control or space. -/
def isJunk (c : Char) : Bool := c.toNat ≤ 32

def isTabOrNewline (c : Char) : Bool := c = '\t' || c = '\n' || c = '\r'

section
variable (H : HostParser) (page : Location)

def afterScheme (scheme : String) : State :=
  if scheme = "file" then .file
  else if isSpecial scheme then if scheme = page.scheme then .relative else .slashes scheme
  else .path scheme

def relativeStep (c : Char) : State := if isSlash c then .relativeSlash else .done (some page.origin)

def authorityStep (scheme : String) (buffer : List Char) (c : Char) : State :=
  if isEnd scheme c then .done (authorityOrigin H scheme buffer) else .authority scheme (buffer ++ [c])

def advance : State → Char → State
  | .start, c =>
    if isJunk c then .start else if c.isAlpha then .scheme [c.toLower] else relativeStep page c
  | .scheme buffer, c =>
    if c.isAlphanum || c = '+' || c = '-' || c = '.' then .scheme (buffer ++ [c.toLower])
    else if c = ':' then afterScheme page (String.ofList buffer)
    else .done (some page.origin)
  | .relative, c => relativeStep page c
  | .relativeSlash, c => if isSlash c then .slashes page.scheme else .done (some page.origin)
  | .slashes scheme, c => if isSlash c then .slashes scheme else authorityStep H scheme [] c
  | .authority scheme buffer, c => authorityStep H scheme buffer c
  | .path scheme, c => if c = '/' then .pathSlash scheme else .done (some ⟨scheme, none, none⟩)
  | .pathSlash scheme, c => if c = '/' then .authority scheme [] else .done (some ⟨scheme, none, none⟩)
  | .file, c => if isSlash c then .fileSlash else .done (some ⟨"file", some "", none⟩)
  | .fileSlash, c => if isSlash c then .fileHost [] else .done (some ⟨"file", some "", none⟩)
  | .fileHost buffer, c => if isEnd "file" c then .done (fileOrigin H buffer) else .fileHost (buffer ++ [c])
  | .done origin, _ => .done origin

/-- Tabs and newlines are removed wherever they stand. -/
def step (q : State) (c : Char) : State := if isTabOrNewline c then q else advance H page q c

/-- The origin of a URL that ends here. -/
def finish : State → Option Origin
  | .start | .scheme _ | .relative | .relativeSlash => some page.origin
  | .slashes scheme => authorityOrigin H scheme []
  | .authority scheme buffer => authorityOrigin H scheme buffer
  | .path scheme | .pathSlash scheme => some ⟨scheme, none, none⟩
  | .file | .fileSlash => some ⟨"file", some "", none⟩
  | .fileHost buffer => fileOrigin H buffer
  | .done origin => origin

def stateAfter (url : List Char) : State := url.foldl (step H page) .start

/-- The origin a browser resolves a URL to. Trailing junk is cut off first; leading junk
leaves the machine in its start. -/
def origin (url : List Char) : Option Origin := finish H page (stateAfter H page (url.rdropWhile isJunk))

/-- Two URLs that resolve to one scheme, host and port. -/
def SameOrigin (url url' : List Char) : Prop :=
  ∃ o, origin H page url = some o ∧ origin H page url' = some o

/-- The origin is found before the end. -/
def Settled (url : List Char) : Prop := ∃ o, stateAfter H page url = .done (some o)

end

/-! ## What is settled -/

section
variable {H : HostParser} {page : Location}

theorem stateAfter_append (url more : List Char) :
    stateAfter H page (url ++ more) = more.foldl (step H page) (stateAfter H page url) :=
  List.foldl_append

theorem step_of_visible {c : Char} (visible : isJunk c = false) (q : State) :
    step H page q c = advance H page q c := by
  have kept : isTabOrNewline c = false := by
    by_contra removed
    simp only [isTabOrNewline, Bool.not_eq_false, Bool.or_eq_true, decide_eq_true_eq] at removed
    obtain (rfl | rfl) | rfl := removed <;> exact absurd visible (by decide)
  rw [step, kept]
  rfl

theorem foldl_step_done (o : Option Origin) (more : List Char) :
    more.foldl (step H page) (.done o) = .done o := by
  induction more with
  | nil => rfl
  | cons c rest ih =>
    have stays : step H page (.done o) c = .done o := by
      unfold step
      split
      · rfl
      · rfl
    rw [List.foldl_cons, stays, ih]

/-- In the middle of an authority or of the host of a file. -/
def State.Collecting : State → Prop
  | .authority _ _ => True
  | .fileHost _ => True
  | _ => False

theorem junk_facts {c : Char} (junk : isJunk c = true) : isSlash c = false ∧ c.isAlphanum = false ∧
    c ≠ '/' ∧ c ≠ ':' ∧ c ≠ '+' ∧ c ≠ '-' ∧ c ≠ '.' ∧ ∀ scheme, isEnd scheme c = false := by
  have low : c.toNat ≤ 32 := by simpa [isJunk] using junk
  have apart : ∀ d : Char, 32 < d.toNat → c ≠ d := by
    intro d high same
    subst same
    omega
  have word : c.isAlphanum = false := by
    have first : ∀ n ≤ 32, (Char.ofNat n).isAlphanum = false := by decide
    have here := first c.toNat low
    rwa [Char.ofNat_toNat] at here
  refine ⟨?_, word, apart _ (by decide), apart _ (by decide), apart _ (by decide), apart _ (by decide),
    apart _ (by decide), ?_⟩
  · simp [isSlash, apart '/' (by decide), apart '\\' (by decide)]
  · intro scheme
    simp [isEnd, apart '/' (by decide), apart '?' (by decide), apart '#' (by decide), apart '\\' (by decide)]

/-- Junk joins what is being collected. -/
theorem step_collecting {c : Char} (junk : isJunk c = true) {q : State} (collecting : q.Collecting) :
    (step H page q c).Collecting := by
  have noEnd := (junk_facts junk).2.2.2.2.2.2.2
  unfold step
  split
  · exact collecting
  · cases q with
    | authority scheme buffer => simp [advance, authorityStep, noEnd, State.Collecting]
    | fileHost buffer => simp [advance, noEnd, State.Collecting]
    | _ => cases collecting

/-- Elsewhere it leaves the machine where it is, starts a collection, or settles the origin
as the end would. -/
theorem step_junk {c : Char} (junk : isJunk c = true) (q : State) : step H page q c = q ∨
    (step H page q c).Collecting ∨ step H page q c = .done (finish H page q) := by
  obtain ⟨slash, word, solid, colon, plus, minus, dot, noEnd⟩ := junk_facts junk
  unfold step
  split
  · exact .inl rfl
  · cases q with
    | start => exact .inl (by simp [advance, junk])
    | scheme buffer => exact .inr (.inr (by simp [advance, word, colon, plus, minus, dot, finish]))
    | relative => exact .inr (.inr (by simp [advance, relativeStep, slash, finish]))
    | relativeSlash => exact .inr (.inr (by simp [advance, slash, finish]))
    | slashes scheme => exact .inr (.inl (by simp [advance, authorityStep, slash, noEnd, State.Collecting]))
    | authority scheme buffer => exact .inr (.inl (by simp [advance, authorityStep, noEnd, State.Collecting]))
    | path scheme => exact .inr (.inr (by simp [advance, solid, finish]))
    | pathSlash scheme => exact .inr (.inr (by simp [advance, solid, finish]))
    | file => exact .inr (.inr (by simp [advance, slash, finish]))
    | fileSlash => exact .inr (.inr (by simp [advance, slash, finish]))
    | fileHost buffer => exact .inr (.inl (by simp [advance, noEnd, State.Collecting]))
    | done o => exact .inl rfl

theorem foldl_step_collecting {junk : List Char} (all : ∀ c ∈ junk, isJunk c = true) {q : State}
    (collecting : q.Collecting) : (junk.foldl (step H page) q).Collecting := by
  induction junk generalizing q with
  | nil => exact collecting
  | cons c rest ih =>
    apply ih (fun d mem => all d (List.mem_cons_of_mem _ mem))
    exact step_collecting (all c List.mem_cons_self) collecting

/-- What trailing junk settles is what the end settles. -/
theorem finish_of_junk {junk : List Char} (all : ∀ c ∈ junk, isJunk c = true) {q : State} {o : Option Origin}
    (settled : junk.foldl (step H page) q = .done o) : finish H page q = o := by
  induction junk generalizing q with
  | nil =>
    have last : q = .done o := settled
    rw [last]
    rfl
  | cons c rest ih =>
    have later : ∀ d ∈ rest, isJunk d = true := fun d mem => all d (List.mem_cons_of_mem _ mem)
    rw [List.foldl_cons] at settled
    obtain stays | joins | ends := step_junk (all c List.mem_cons_self) q
    · rw [stays] at settled
      exact ih later settled
    · have collecting : (rest.foldl (step H page) (step H page q c)).Collecting :=
        foldl_step_collecting later joins
      rw [settled] at collecting
      cases collecting
    · rw [ends, foldl_step_done] at settled
      exact State.done.inj settled

/-- A URL has the origin it settles. -/
theorem origin_of_done {url : List Char} {o : Option Origin} (settled : stateAfter H page url = .done o) :
    origin H page url = o := by
  have parts : url.rdropWhile isJunk ++ url.rtakeWhile isJunk = url := List.rdropWhile_append_rtakeWhile
  rw [← parts, stateAfter_append] at settled
  exact finish_of_junk (fun c mem => List.mem_rtakeWhile_imp mem) settled

theorem Settled.append {url : List Char} (settled : Settled H page url) (more : List Char) :
    SameOrigin H page (url ++ more) url := by
  obtain ⟨o, state⟩ := settled
  refine ⟨o, origin_of_done ?_, origin_of_done state⟩
  rw [stateAfter_append, state, foldl_step_done]

/-! ## What is not -/

theorem lower_facts {w : Char} (lower : w.isLower = true) : isJunk w = false ∧ w ≠ '@' ∧ w ≠ ':' ∧
    isSlash w = false ∧ ∀ scheme, isEnd scheme w = false := by
  have apart : ∀ d : Char, d.isLower = false → w ≠ d := by
    intro d other same
    subst same
    rw [lower] at other
    cases other
  have visible : isJunk w = false := by
    by_contra junk
    have low : w.toNat ≤ 32 := by simpa [isJunk] using junk
    have first : ∀ n ≤ 32, (Char.ofNat n).isLower = false := by decide
    have here := first w.toNat low
    rw [Char.ofNat_toNat, lower] at here
    cases here
  refine ⟨visible, apart _ (by decide), apart _ (by decide), ?_, ?_⟩
  · simp [isSlash, apart '/' (by decide), apart '\\' (by decide)]
  · intro scheme
    simp [isEnd, apart '/' (by decide), apart '?' (by decide), apart '#' (by decide), apart '\\' (by decide)]

/-- The origin of an authority whose host is one letter. -/
theorem authorityOrigin_letter {w : Char} (lower : w.isLower = true) {authority : List Char} (scheme : String)
    (last : authority.rtakeWhile (fun c => c ≠ '@') = [w]) :
    authorityOrigin H scheme authority = some ⟨scheme, some (String.ofList [w]), none⟩ := by
  obtain ⟨-, -, colon, -, -⟩ := lower_facts lower
  have word : H.parse (!isSpecial scheme) [w] = some (String.ofList [w]) :=
    H.words _ _ (List.cons_ne_nil _ _) (fun c mem => List.mem_singleton.mp mem ▸ lower)
  have whole : splitPort false [w] = ([w], none) := by
    simp [splitPort, colon]
  unfold authorityOrigin
  simp only [last, whole, List.cons_ne_nil, decide_false, Bool.false_and, Bool.false_eq_true, if_false, word]
  rfl

theorem rtakeWhile_letter {w : Char} (lower : w.isLower = true) :
    [w].rtakeWhile (fun c => c ≠ '@') = [w] := by
  simp [(lower_facts lower).2.1]

theorem rtakeWhile_at {w : Char} (lower : w.isLower = true) (before : List Char) :
    (before ++ ['@', w]).rtakeWhile (fun c => c ≠ '@') = [w] := by
  have split : before ++ ['@', w] = (before ++ ['@']) ++ [w] := by simp
  rw [split, List.rtakeWhile_concat_pos _ _ _ (by simp [(lower_facts lower).2.1]),
    List.rtakeWhile_concat_neg _ _ _ (by simp)]
  rfl

section
variable {w : Char} (lower : w.isLower = true)
include lower

theorem run_authority (scheme : String) : [w, '/'].foldl (step H page) (.authority scheme []) =
    .done (some ⟨scheme, some (String.ofList [w]), none⟩) := by
  obtain ⟨visible, -, -, -, noEnd⟩ := lower_facts lower
  rw [List.foldl_cons, step_of_visible visible, advance, authorityStep, noEnd]
  exact congrArg State.done (authorityOrigin_letter lower scheme (rtakeWhile_letter lower))

theorem run_slashes (scheme : String) : [w, '/'].foldl (step H page) (.slashes scheme) =
    .done (some ⟨scheme, some (String.ofList [w]), none⟩) := by
  obtain ⟨visible, -, -, slash, noEnd⟩ := lower_facts lower
  rw [List.foldl_cons, step_of_visible visible, advance, slash]
  show ['/'].foldl (step H page) (authorityStep H scheme [] w) = _
  rw [authorityStep, noEnd]
  exact congrArg State.done (authorityOrigin_letter lower scheme (rtakeWhile_letter lower))

/-- After an at sign an authority names another host. -/
theorem run_at (scheme : String) (buffer : List Char) :
    ['@', w, '/'].foldl (step H page) (.authority scheme buffer) =
      .done (some ⟨scheme, some (String.ofList [w]), none⟩) := by
  obtain ⟨visible, -, -, -, noEnd⟩ := lower_facts lower
  have user : step H page (.authority scheme buffer) '@' = .authority scheme (buffer ++ ['@']) := by
    rw [step_of_visible (by decide), advance, authorityStep, isEnd]
    simp
  rw [List.foldl_cons, user, List.foldl_cons, step_of_visible visible, advance, authorityStep, noEnd,
    List.append_assoc]
  exact congrArg State.done (authorityOrigin_letter lower scheme (rtakeWhile_at lower buffer))

theorem run_fileHost : [w, '/'].foldl (step H page) (.fileHost []) =
    .done (some ⟨"file", some (String.ofList [w]), none⟩) := by
  obtain ⟨visible, -, -, -, noEnd⟩ := lower_facts lower
  have word : H.parse false [w] = some (String.ofList [w]) :=
    H.words _ _ (List.cons_ne_nil _ _) (fun c mem => List.mem_singleton.mp mem ▸ lower)
  have other : String.ofList [w] ≠ "localhost" := by
    intro same
    have chars := congrArg String.toList same
    simp at chars
  have named : fileOrigin H [w] = some ⟨"file", some (String.ofList [w]), none⟩ := by
    rw [fileOrigin, word, if_neg (by simp [isDriveLetter]), Option.map_some, if_neg other]
  rw [List.foldl_cons, step_of_visible visible, advance, noEnd]
  exact congrArg State.done named

end

/-- The host of a file has no user before it: with an at sign the URL fails. -/
theorem run_fileHost_at (buffer : List Char) :
    ['@', '/'].foldl (step H page) (.fileHost buffer) = .done none := by
  have letters : isDriveLetter (buffer ++ ['@']) = false := by
    match buffer with
    | [] => rfl
    | [letter] => simp [isDriveLetter]
    | _ :: _ :: _ => simp [isDriveLetter]
  have fails : fileOrigin H (buffer ++ ['@']) = none := by
    simp [fileOrigin, letters, H.at_sign]
  have user : step H page (.fileHost buffer) '@' = .fileHost (buffer ++ ['@']) := by
    rw [step_of_visible (by decide), advance, isEnd]
    simp
  rw [List.foldl_cons, user]
  exact congrArg State.done fails

/-- While the origin is not settled, what follows can lead to another one, or to none. -/
theorem escapes {q : State} (unsettled : ∀ o, q ≠ .done o) (known : Origin) :
    ∃ (more : List Char) (o : Option Origin), more.foldl (step H page) q = .done o ∧ o ≠ some known := by
  obtain ⟨w, lower, other⟩ : ∃ w : Char, w.isLower = true ∧ some (String.ofList [w]) ≠ known.host := by
    by_cases taken : known.host = some "a"
    · exact ⟨'b', by decide, by rw [taken]; decide⟩
    · exact ⟨'a', by decide, fun same => taken same.symm⟩
  have elsewhere : ∀ scheme, some (Origin.mk scheme (some (String.ofList [w])) none) ≠ some known := by
    intro scheme same
    exact other (congrArg Origin.host (Option.some.inj same))
  cases q with
  | start => exact ⟨['/', '/', w, '/'], _, run_slashes lower page.scheme, elsewhere _⟩
  | scheme buffer =>
    refine ⟨[':', '/', '/', w, '/'], ?_⟩
    show ∃ o, ['/', '/', w, '/'].foldl (step H page) (afterScheme page (String.ofList buffer)) = .done o ∧ _
    unfold afterScheme
    split
    · exact ⟨_, run_fileHost lower, elsewhere _⟩
    · split
      · split
        · exact ⟨_, run_slashes lower page.scheme, elsewhere _⟩
        · exact ⟨_, run_slashes lower _, elsewhere _⟩
      · exact ⟨_, run_authority lower _, elsewhere _⟩
  | relative => exact ⟨['/', '/', w, '/'], _, run_slashes lower page.scheme, elsewhere _⟩
  | relativeSlash => exact ⟨['/', w, '/'], _, run_slashes lower page.scheme, elsewhere _⟩
  | slashes scheme => exact ⟨[w, '/'], _, run_slashes lower scheme, elsewhere _⟩
  | authority scheme buffer => exact ⟨['@', w, '/'], _, run_at lower scheme buffer, elsewhere _⟩
  | path scheme => exact ⟨['/', '/', w, '/'], _, run_authority lower scheme, elsewhere _⟩
  | pathSlash scheme => exact ⟨['/', w, '/'], _, run_authority lower scheme, elsewhere _⟩
  | file => exact ⟨['/', '/', w, '/'], _, run_fileHost lower, elsewhere _⟩
  | fileSlash => exact ⟨['/', w, '/'], _, run_fileHost lower, elsewhere _⟩
  | fileHost buffer => exact ⟨['@', '/'], none, run_fileHost_at buffer, (Option.some_ne_none _).symm⟩
  | done o => exact absurd rfl (unsettled o)

/-- A URL that has not settled its origin can go on so that nothing that follows leads back. -/
theorem not_settled {url : List Char} (unsettled : ¬Settled H page url) :
    ∃ more, ∀ rest, ¬SameOrigin H page (url ++ more ++ rest) url := by
  cases found : origin H page url with
  | none =>
    refine ⟨[], fun rest same => ?_⟩
    obtain ⟨o, -, own⟩ := same
    rw [found] at own
    cases own
  | some known =>
    have running : ∀ o, stateAfter H page url ≠ .done o := by
      intro o state
      have own := origin_of_done state
      rw [found] at own
      exact unsettled ⟨known, own ▸ state⟩
    obtain ⟨more, o, run, other⟩ : ∃ (more : List Char) (o : Option Origin),
        more.foldl (step H page) (stateAfter H page url) = .done o ∧ o ≠ some known := escapes running known
    refine ⟨more, fun rest same => ?_⟩
    obtain ⟨o', there, own⟩ := same
    have state : stateAfter H page (url ++ more ++ rest) = .done o := by
      rw [stateAfter_append, stateAfter_append, run, foldl_step_done]
    rw [origin_of_done state] at there
    rw [found] at own
    exact other (there.trans own.symm)

/-- An HTTPS URL that is no longer than its authority can go on in it. -/
theorem stateAfter_authority {authority : List Char} (nonempty : authority ≠ [])
    (plain : ∀ c ∈ authority, isJunk c = false ∧ isEnd "https" c = false) :
    stateAfter H page ("https://".toList ++ authority) = .authority "https" authority := by
  have opened : stateAfter H page "https://".toList = .slashes "https" := by
    obtain ⟨secure, host, port⟩ := page
    cases secure with
    | false => rfl
    | true => rfl
  rw [stateAfter_append, opened]
  induction authority using List.reverseRecOn with
  | nil => exact absurd rfl nonempty
  | append_singleton before c ih =>
    obtain ⟨visible, noEnd⟩ := plain c (List.mem_append_right _ List.mem_cons_self)
    rw [List.foldl_append, List.foldl_cons, List.foldl_nil]
    cases before with
    | nil =>
      have slash : isSlash c = false := by
        by_contra both
        simp only [isSlash, Bool.not_eq_false, Bool.or_eq_true, decide_eq_true_eq] at both
        obtain rfl | rfl := both <;> exact absurd noEnd (by decide)
      rw [List.foldl_nil, step_of_visible visible, advance, slash]
      show authorityStep H "https" [] c = _
      rw [authorityStep, noEnd]
      rfl
    | cons first rest =>
      rw [ih (List.cons_ne_nil _ _) (fun d mem => plain d (List.mem_append_left _ mem)), step_of_visible visible,
        advance, authorityStep, noEnd]
      rfl

end
end XpBuilder.Url
