import XpBuilder.Customizations.BrandLink
import XpBuilder.Library.Lossy

/-! The redirect of the historical `/superset` addresses. The hook reads the path as it was decoded and
writes it into a new address as it is, so what the escapes of the request stood for may be read anew. -/

namespace XpBuilder.LegacyPrefix
open Percent Lossy
open Url (HostParser Location)

def superset : List Char := "/superset".toList

def xpbuilder : List Char := "/xpbuilder".toList

/-! ## The code -/

/-- `request.path`, of the bytes the server decoded. -/
def requestPath (pathInfo : List UInt8) : List Char := '/' :: (Utf8.decode pathInfo).dropWhile (fun c => c = '/')

/-- `_redirect_legacy_superset_prefix`: the target, or none for a request that goes on. -/
def redirectLegacySupersetPrefix (path : List Char) (queryString : List UInt8) : Option (List Char) :=
  if path ≠ superset ∧ (superset ++ ['/']).isPrefixOf path = false then none
  else
    let target := xpbuilder ++ path.drop superset.length
    if queryString = [] then some target else some (target ++ '?' :: Utf8.decode queryString)

/-! ## What surrounds it -/

/-- How the server reads the path of a request. It decodes the escapes, and a raw byte that is not ASCII
it keeps, or encodes as a character. -/
structure Server where
  plain : Char → List UInt8
  ascii : ∀ c, c.toNat < 0x80 → plain c = ownByte c

/-- A server that keeps the raw bytes. -/
def Server.raw : Server := ⟨ownByte, fun _ _ => rfl⟩

/-- A request under the historical prefix, which may be escaped, and any segments. The query has no
blanks, control characters or fragment. -/
structure Request (S : Server) where
  path : List UInt8
  query : List UInt8
  more : List (List UInt8)
  absolute : path.head? = some 0x2F
  legacy : ((latin1 path).splitOn '/').tail.map (read S.plain) = utf8 "superset".toList :: more
  visible : ∀ b ∈ query, 0x20 < b.toNat ∧ b ≠ 0x23

/-- `PATH_INFO` -/
def Request.pathInfo {S : Server} (u : Request S) : List UInt8 := read S.plain (latin1 u.path)

/-- What a link leads to. -/
structure Address where
  origin : Option Url.Origin
  segments : List (List UInt8)
  params : List (List UInt8 × List UInt8)

/-- How a link that begins with a slash is read on a page. Tabs and newlines are dropped, and a character
that no URL has stands for its bytes. Dot segments are left as they are. -/
def readUrl (H : HostParser) (page : Location) (link : List Char) : Address :=
  let text := link.filter (fun c => !Url.isTabOrNewline c)
  ⟨Url.origin H page link, ((address text).splitOn '/').tail.map decode,
    formPairs String.utf8EncodeChar (Percent.query text)⟩

def isNewline (c : Char) : Bool := c = '\n' || c = '\r'

/-- `flask.redirect`: a target with a newline is refused, and the header is read as the target is. -/
structure Redirect where
  location : List Char → Option (List Char)
  refuses : ∀ target, (∃ c ∈ target, isNewline c = true) → location target = none
  reads : ∀ target, (∀ c ∈ target, isNewline c = false) →
    ∃ written, location target = some written ∧ ∀ H page, readUrl H page written = readUrl H page target

/-- The target as it is. -/
def Redirect.asWritten : Redirect where
  location target := if target.any isNewline then none else some target
  refuses target newline := if_pos (List.any_eq_true.mpr newline)
  reads target plain := by
    have absent : target.any isNewline = false := List.any_eq_false.mpr (fun c mem => by simp [plain c mem])
    exact ⟨target, by rw [absent, if_neg (by decide)], fun _ _ => rfl⟩

/-! ## What it is for -/

/-- What the request addresses, under the new prefix. -/
def Request.successor {S : Server} (u : Request S) (page : Location) : Address :=
  ⟨some page.origin, utf8 "xpbuilder".toList :: u.more, formPairs ownByte (latin1 u.query)⟩

/-- The path of the request that follows a link. -/
def followed (a : Address) : List Char := requestPath (rooted 0x2F a.segments)

/-- The request is redirected to what it addressed, on the same host, and only once. -/
def Preserved {S : Server} (R : Redirect) (H : HostParser) (page : Location) (u : Request S) : Prop :=
  ∃ target written, redirectLegacySupersetPrefix (requestPath u.pathInfo) u.query = some target ∧
    R.location target = some written ∧ readUrl H page written = u.successor page ∧
    ∀ query, redirectLegacySupersetPrefix (followed (readUrl H page written)) query = none

/-- The bytes of the path behind the prefix. -/
def Request.below {S : Server} (u : Request S) : List UInt8 := rooted 0x2F u.more

/-- The path is a text without an escape, a mark or a slash that was escaped, and the query a text. -/
structure Survives {S : Server} (u : Request S) : Prop where
  text : Utf8.Valid u.below
  unmarked : ∀ c ∈ Utf8.decode u.below, c ≠ '?' ∧ c ≠ '#' ∧ Url.isTabOrNewline c = false
  unescaped : Unescaped (Utf8.decode u.below)
  whole : ∀ seg ∈ u.more, 0x2F ∉ seg
  query : Utf8.Valid u.query

/-! ## The path of the request -/

section
variable {S : Server} (u : Request S)

theorem pathInfo_eq : u.pathInfo = utf8 superset ++ u.below := by
  have starts : ∀ c ∈ (latin1 u.path).head?, c = '/' := by
    intro c head
    rw [latin1, List.head?_map, u.absolute, Option.map_some, Option.mem_some_iff] at head
    rw [← head]
    decide
  have slash : S.plain '/' = [0x2F] := (S.ascii '/' (by decide)).trans (by decide)
  have read := read_rooted slash ((latin1 u.path).splitOn '/').tail
  rw [rooted_splitOn starts, u.legacy, rooted_cons] at read
  rw [Request.pathInfo, read]
  rfl

theorem requestPath_eq : requestPath u.pathInfo = superset ++ Utf8.decode u.below := by
  rw [requestPath, pathInfo_eq, Utf8.decode_text]
  rfl

/-- Behind the prefix the path ends or a slash follows. -/
theorem below_cases : Utf8.decode u.below = [] ∨ ∃ rest, Utf8.decode u.below = '/' :: rest := by
  unfold Request.below
  cases u.more with
  | nil => exact .inl rfl
  | cons seg segs => exact .inr ⟨_, decode_ascii (c := '/') (by decide) (seg ++ rooted 0x2F segs)⟩

/-- The query of the target, with its mark. -/
def queryPart : List Char := if u.query = [] then [] else '?' :: Utf8.decode u.query

/-- Every such request is redirected. -/
theorem redirected : redirectLegacySupersetPrefix (requestPath u.pathInfo) u.query =
    some (xpbuilder ++ Utf8.decode u.below ++ queryPart u) := by
  have fires : ¬(requestPath u.pathInfo ≠ superset ∧
      (superset ++ ['/']).isPrefixOf (requestPath u.pathInfo) = false) := by
    rintro ⟨longer, other⟩
    rw [requestPath_eq] at longer other
    rcases below_cases u with empty | ⟨rest, shape⟩
    · rw [empty, List.append_nil] at longer
      exact longer rfl
    · have starts : (superset ++ ['/']).isPrefixOf (superset ++ Utf8.decode u.below) = true := by
        rw [List.isPrefixOf_iff_prefix, shape]
        exact ⟨rest, by simp⟩
      rw [starts] at other
      cases other
  rw [redirectLegacySupersetPrefix, if_neg fires, requestPath_eq, List.drop_left, queryPart]
  split_ifs
  · rw [List.append_nil]
  · rfl

/-! ## The target as a link -/

theorem visible_decode {c : Char} (mem : c ∈ Utf8.decode u.query) : c ≠ '#' ∧ Url.isTabOrNewline c = false := by
  have clear : ∀ d : Char, d.toNat < 0x80 → (d.toNat ≤ 0x20 ∨ d = '#') → c ≠ d := by
    rintro d ascii low rfl
    have byte := u.visible _ (Utf8.mem_of_mem_decode ascii mem)
    rw [UInt8.toNat_ofNat', Nat.mod_eq_of_lt (by omega)] at byte
    rcases low with low | rfl
    · omega
    · exact byte.2 (by decide)
  refine ⟨clear '#' (by decide) (by decide), ?_⟩
  simp only [Url.isTabOrNewline, Bool.or_eq_false_iff, decide_eq_false_iff_not]
  exact ⟨⟨clear '\t' (by decide) (by decide), clear '\n' (by decide) (by decide)⟩, clear '\r' (by decide) (by decide)⟩

theorem filter_queryPart : (queryPart u).filter (fun c => !Url.isTabOrNewline c) = queryPart u := by
  unfold queryPart
  split_ifs
  · rfl
  · rw [List.filter_eq_self, List.forall_mem_cons]
    refine ⟨by decide, fun c mem => ?_⟩
    rw [(visible_decode u mem).2]
    rfl

end

/-- A part of an address before the query ends where it would have ended by itself. -/
theorem takeWhile_append_mark {go : Char → Bool} {part : List Char} (stops : ∀ c ∈ part.head?, go c = false)
    (front : List Char) : (front ++ part).takeWhile go = front.takeWhile go := by
  have nothing : part.takeWhile go = [] := by
    cases part with
    | nil => rfl
    | cons c part => rw [List.takeWhile_cons_of_neg (by simp [stops c rfl])]
  rw [List.takeWhile_append, nothing, List.append_nil]
  split_ifs with whole
  · exact ((List.takeWhile_prefix go).eq_of_length whole).symm
  · rfl

theorem query_of_unmarked {link : List Char} (mark : '?' ∉ link) : Percent.query link = [] := by
  have all : ∀ c ∈ link.takeWhile (fun c => decide (c ≠ '#')), decide (c ≠ '?') = true := by
    intro c mem
    have among := (List.takeWhile_prefix _).subset mem
    exact decide_eq_true (fun same => mark (same ▸ among))
  rw [Percent.query, List.dropWhile_eq_nil_iff.mpr all]
  rfl

theorem splitOn_xpbuilder {part : List Char} (starts : ∀ c ∈ part.head?, c = '/') :
    ((xpbuilder ++ part).splitOn '/').tail = "xpbuilder".toList :: (part.splitOn '/').tail := by
  have absent : '/' ∉ "xpbuilder".toList := by decide
  change (('/' :: ("xpbuilder".toList ++ part)).splitOn '/').tail = _
  rw [splitOn_cons_self, List.tail_cons]
  cases part with
  | nil =>
    rw [List.append_nil, List.splitOn_eq_singleton absent]
    rfl
  | cons c part =>
    obtain rfl := starts c rfl
    rw [List.splitOn_append_cons_self_of_not_mem absent, splitOn_cons_self]
    rfl

theorem origin_xpbuilder (H : HostParser) (page : Location) (rest : List Char) :
    Url.origin H page (xpbuilder ++ rest) = some page.origin := by
  apply Url.origin_of_done
  have settled : Url.stateAfter H page xpbuilder = .done (some page.origin) := rfl
  rw [Url.stateAfter_append, settled, Url.foldl_step_done]

/-- A path under the new prefix goes on. -/
theorem redirect_xpbuilder (rest : List Char) (query : List UInt8) :
    redirectLegacySupersetPrefix (xpbuilder ++ rest) query = none := by
  refine if_pos ⟨fun same => ?_, rfl⟩
  have second := congrArg (fun path => path[1]?) same
  cases second

theorem followed_eq {a : Address} {segs : List (List UInt8)} (under : a.segments = utf8 "xpbuilder".toList :: segs) :
    followed a = xpbuilder ++ Utf8.decode (rooted 0x2F segs) := by
  have bytes : rooted 0x2F a.segments = utf8 xpbuilder ++ rooted 0x2F segs := by
    rw [under, rooted_cons]
    rfl
  rw [followed, requestPath, bytes, Utf8.decode_text]
  rfl

section
variable {S : Server} (R : Redirect) (H : HostParser) (page : Location) (u : Request S)

def target : List Char := xpbuilder ++ Utf8.decode u.below ++ queryPart u

theorem filter_target : (target u).filter (fun c => !Url.isTabOrNewline c) =
    xpbuilder ++ (Utf8.decode u.below).filter (fun c => !Url.isTabOrNewline c) ++ queryPart u := by
  have name : xpbuilder.filter (fun c => !Url.isTabOrNewline c) = xpbuilder := by decide
  rw [target, List.filter_append, List.filter_append, name, filter_queryPart]

/-- A character of the path that does not end it. -/
def goesOn (c : Char) : Bool := c ≠ '?' ∧ c ≠ '#'

/-- The segments of the target are read in what is left of the path. -/
theorem segments_target : (readUrl H page (target u)).segments = utf8 "xpbuilder".toList ::
    ((((Utf8.decode u.below).filter (fun c => !Url.isTabOrNewline c)).takeWhile goesOn).splitOn '/').tail.map decode := by
  have front : ∀ rest, (xpbuilder ++ rest).takeWhile goesOn = xpbuilder ++ rest.takeWhile goesOn := by
    intro rest
    exact List.takeWhile_append_of_pos (Lists.forall_mem_of_all (by decide))
  have stops : ∀ c ∈ (queryPart u).head?, goesOn c = false := by
    unfold queryPart
    split_ifs
    · exact nofun
    · intro c head
      rw [← Option.mem_some_iff.mp head]
      decide
  have starts : ∀ c ∈ (((Utf8.decode u.below).filter (fun c => !Url.isTabOrNewline c)).takeWhile goesOn).head?,
      c = '/' := by
    rcases below_cases u with empty | ⟨rest, shape⟩
    · rw [empty]
      exact nofun
    · rw [shape, List.filter_cons_of_pos (by decide), List.takeWhile_cons_of_pos (by decide)]
      intro c head
      exact (Option.mem_some_iff.mp head).symm
  change ((((target u).filter (fun c => !Url.isTabOrNewline c)).takeWhile goesOn).splitOn '/').tail.map decode = _
  rw [filter_target, takeWhile_append_mark stops, front, splitOn_xpbuilder starts, List.map_cons]
  rfl

/-- In a path without marks the query of the target is that of the request, read as a text. -/
theorem params_target (unmarked : ∀ c ∈ Utf8.decode u.below, c ≠ '?' ∧ c ≠ '#' ∧ Url.isTabOrNewline c = false) :
    (readUrl H page (target u)).params = formPairs String.utf8EncodeChar (Utf8.decode u.query) := by
  have path : (Utf8.decode u.below).filter (fun c => !Url.isTabOrNewline c) = Utf8.decode u.below := by
    rw [List.filter_eq_self]
    intro c mem
    rw [(unmarked c mem).2.2]
    rfl
  have marks : ∀ mark : Char, mark ∉ xpbuilder → mark ∉ Utf8.decode u.below → mark ∉ xpbuilder ++ Utf8.decode u.below :=
    fun mark first second => List.not_mem_append first second
  have question := marks '?' (by decide) (fun mem => (unmarked _ mem).1 rfl)
  have hash := marks '#' (by decide) (fun mem => (unmarked _ mem).2.1 rfl)
  change formPairs _ (Percent.query ((target u).filter (fun c => !Url.isTabOrNewline c))) = _
  rw [filter_target, path, queryPart]
  split_ifs with empty
  · rw [List.append_nil, query_of_unmarked question, empty, Utf8.decode_nil]
  · rw [query_eq question hash (fun mem => (visible_decode u mem).1 rfl)]

theorem origin_target : (readUrl H page (target u)).origin = some page.origin := by
  change Url.origin H page (target u) = _
  rw [target, List.append_assoc]
  exact origin_xpbuilder H page _

theorem reads_target {written : List Char} (location : R.location (target u) = some written) :
    readUrl H page written = readUrl H page (target u) := by
  have plain : ∀ c ∈ target u, isNewline c = false := by
    intro c mem
    cases newline : isNewline c with
    | false => rfl
    | true =>
      rw [R.refuses _ ⟨c, mem, newline⟩] at location
      cases location
  obtain ⟨_, found, reading⟩ := R.reads _ plain
  rw [location, Option.some.injEq] at found
  rw [found, reading H page]

/-- Whatever it leads to, what is redirected stays on the host and is not redirected again. -/
theorem redirected_once {written : List Char} (location : R.location (target u) = some written) :
    (readUrl H page written).origin = some page.origin ∧
      ∀ query, redirectLegacySupersetPrefix (followed (readUrl H page written)) query = none := by
  rw [reads_target R H page u location]
  refine ⟨origin_target H page u, fun query => ?_⟩
  rw [followed_eq (segments_target H page u)]
  exact redirect_xpbuilder _ query

/-! ## When it is preserved -/

theorem goesOn_iff (c : Char) : ((!Url.isTabOrNewline c) = true ∧ goesOn c = true) ↔
    c ≠ '?' ∧ c ≠ '#' ∧ Url.isTabOrNewline c = false := by
  rw [Bool.not_eq_true', goesOn, decide_eq_true_eq]
  tauto

theorem survives_of_preserved (preserved : Preserved R H page u) : Survives u := by
  obtain ⟨_, written, fires, location, reading, -⟩ := preserved
  obtain rfl := Option.some.inj ((redirected u).symm.trans fires)
  have same := (reads_target R H page u location).symm.trans reading
  have segments := (segments_target H page u).symm.trans (congrArg Address.segments same)
  obtain ⟨⟨text, characters, unescaped⟩, whole⟩ :=
    (segments_read_back_iff _ _ (by decide) (by decide) u.more).mp (List.cons.inj segments).2
  have unmarked := fun c mem => (goesOn_iff c).mp (characters c mem)
  have params := (params_target H page u unmarked).symm.trans (congrArg Address.params same)
  exact ⟨text, unmarked, unescaped, whole, (pairs_read_back_iff u.query).mp params⟩

theorem Survives.preserved {u : Request S} (survives : Survives u) : Preserved R H page u := by
  have visible : ∀ c, Url.isTabOrNewline c = false → isNewline c = false := by
    intro c plain
    simp only [Url.isTabOrNewline, Bool.or_eq_false_iff] at plain
    simp only [isNewline, plain, Bool.or_self]
  have plain : ∀ c ∈ target u, isNewline c = false := by
    intro c mem
    rw [target, List.mem_append, List.mem_append] at mem
    rcases mem with (name | path) | query
    · exact Lists.forall_mem_of_all (p := fun c => isNewline c = false) (by decide) c name
    · exact visible c (survives.unmarked c path).2.2
    · rw [← filter_queryPart, List.mem_filter, Bool.not_eq_true'] at query
      exact visible c query.2
  obtain ⟨written, location, reading⟩ := R.reads _ plain
  have segments := (segments_read_back_iff (fun c => !Url.isTabOrNewline c) goesOn (by decide) (by decide) u.more).mpr
    ⟨⟨survives.text, fun c mem => (goesOn_iff c).mpr (survives.unmarked c mem), survives.unescaped⟩, survives.whole⟩
  have address : readUrl H page (target u) = u.successor page := by
    have path := (segments_target H page u).trans (congrArg (List.cons _) segments)
    have params := (params_target H page u survives.unmarked).trans ((pairs_read_back_iff u.query).mpr survives.query)
    rw [Request.successor, ← origin_target H page u, ← path, ← params]
  exact ⟨target u, written, redirected u, location, (reading H page).trans address,
    (redirected_once R H page u location).2⟩

/-- A request is redirected to what it addressed exactly when its path, as it was decoded, and its query
are written as they are and read the same. -/
theorem redirect_preserves_iff : Preserved R H page u ↔ Survives u :=
  ⟨survives_of_preserved R H page u, Survives.preserved R H page⟩

end

/-! ## A question mark that was escaped -/

/-- `/superset/a%3Fb` -/
def escapedMark : Request .raw where
  path := utf8 "/superset/a%3Fb".toList
  query := []
  more := [utf8 "a?b".toList]
  absolute := by decide
  legacy := by decide
  visible := List.forall_mem_nil _

theorem escapedMark_lost : ¬Preserved .asWritten BrandLink.asciiHosts BrandLink.console escapedMark := by
  intro preserved
  have survives := survives_of_preserved _ _ _ escapedMark preserved
  have text : Utf8.decode escapedMark.below = "/a?b".toList := decode_utf8 "/a?b".toList
  have mark : '?' ∈ Utf8.decode escapedMark.below := by
    rw [text]
    decide
  exact (survives.unmarked '?' mark).1 rfl

end XpBuilder.LegacyPrefix
