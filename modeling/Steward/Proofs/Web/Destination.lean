import Steward.Proofs.Text.Cutting
import Steward.Web.Controller
import Steward.Web.Route

/-!
Where a request goes. Behind the first slash of a route the text of a URL has no part in its scheme, its
credentials, its host and its port, so whoever has formed a request on one route can form one on every
other route whose URL is not too long.
-/
namespace Steward.Web

open Steward.Text

section Lists
variable {p : Char → Bool} {c : Char}

theorem takeWhile_stopped (stops : p c = false) (front behind : List Char) :
    (front ++ c :: behind).takeWhile p = front.takeWhile p := by
  induction front with
  | nil => simp [stops]
  | cons d front ih =>
    rw [List.cons_append, List.takeWhile_cons, List.takeWhile_cons, ih]

theorem dropWhile_stopped (stops : p c = false) (front behind : List Char) :
    (front ++ c :: behind).dropWhile p = front.dropWhile p ++ c :: behind := by
  induction front with
  | nil => simp [stops]
  | cons d front ih =>
    rw [List.cons_append, List.dropWhile_cons, List.dropWhile_cons, ih]
    split
    · rfl
    · rfl

theorem dropEndWhile_stopped (stops : p c = false) (front : List Char) :
    dropEndWhile p (front ++ [c]) = front ++ [c] := by
  rw [dropEndWhile, List.reverse_append, List.reverse_singleton, List.singleton_append,
    List.dropWhile_cons_of_neg (by rw [stops]; decide), List.reverse_cons, List.reverse_reverse]

end Lists

/-- A URL without what stands behind its authority. -/
def Url.seat (u : Url) : Url := { u with path := [], query := none, fragment := none }

theorem endsAuthority_slash (k : SchemeKind) : k.endsAuthority '/' = true := by
  cases k <;> rfl

theorem map_seat_bind {o : Option α} {f g : α → Option Url}
    (each : ∀ a, (f a).map Url.seat = (g a).map Url.seat) :
    (o >>= f).map Url.seat = (o >>= g).map Url.seat := by
  cases o with
  | none => rfl
  | some a => exact each a

theorem readAuthority?_seat (scheme : String) (front tail tail' : List Char) :
    (readAuthority? scheme (front ++ '/' :: tail)).map Url.seat =
      (readAuthority? scheme (front ++ '/' :: tail')).map Url.seat := by
  have stops : (!(kindOf scheme).endsAuthority '/') = false := by
    rw [endsAuthority_slash]
    rfl
  have behind (before more tail : List Char) : (before ++ (more ++ '/' :: tail)).isEmpty = false := by
    simp
  unfold readAuthority?
  dsimp only
  rw [takeWhile_stopped (p := fun c => !(kindOf scheme).endsAuthority c) stops,
    takeWhile_stopped (p := fun c => !(kindOf scheme).endsAuthority c) stops,
    dropWhile_stopped (p := fun c => !(kindOf scheme).endsAuthority c) stops,
    dropWhile_stopped (p := fun c => !(kindOf scheme).endsAuthority c) stops]
  split
  all_goals
    apply map_seat_bind
    intro written
    apply map_seat_bind
    intro port
    rw [behind, behind]
    split
    · rfl
    · rfl

theorem cutScheme_behind {scheme : String} {front tail rest : List Char}
    (found : cutScheme (front ++ '/' :: tail) = some (scheme, rest)) :
    ∃ before, rest = before ++ '/' :: tail ∧
      ∀ tail', cutScheme (front ++ '/' :: tail') = some (scheme, before ++ '/' :: tail') := by
  cases cut : cutAt ':' front with
  | some parts =>
    obtain ⟨name, before⟩ := parts
    obtain ⟨rfl, first⟩ := cutAt_eq_some.1 cut
    have cuts (tail : List Char) :
        cutAt ':' ((name ++ ':' :: before) ++ '/' :: tail) = some (name, before ++ '/' :: tail) := by
      rw [List.append_assoc]
      exact cutAt_eq_some.2 ⟨rfl, first⟩
    unfold cutScheme at found ⊢
    simp only [cuts] at found ⊢
    split at found
    · rename_i named
      cases found
      exact ⟨before, rfl, fun tail' => if_pos named⟩
    · cases found
  | none =>
    have colonless := cutAt_eq_none.1 cut
    unfold cutScheme at found
    split at found
    · rename_i name rest' cut'
      obtain ⟨whole, -⟩ := cutAt_eq_some.1 cut'
      have slash : '/' ∈ name := by
        rcases List.append_eq_append_iff.1 whole with ⟨more, rfl, same⟩ | ⟨more, rfl, same⟩
        · cases more with
          | nil => cases same
          | cons c more =>
            cases same
            exact List.mem_append_right front List.mem_cons_self
        · cases more with
          | nil => cases same
          | cons c more =>
            cases same
            exact absurd (List.mem_append_right name List.mem_cons_self) colonless
      split at found
      · rename_i named
        have isOne := List.all_eq_true.1 (Bool.and_eq_true_iff.1 named).2 '/' slash
        exact absurd isOne (by decide)
      · cases found
    · cases found

theorem exists_cleaned (base : List Char) : ∃ front, ∀ middle, ∃ tail, ∀ s : String,
    s.toList = base ++ '/' :: ("api".toList ++ '/' :: (middle ++ ['/'])) →
      cleanUrl s = front ++ '/' :: ("api".toList ++ '/' :: tail) := by
  let kept (c : Char) : Bool := c != '\t' && c != '\n' && c != '\r'
  refine ⟨(base.dropWhile (decide <| ·.toNat ≤ 0x20)).filter kept, fun middle =>
    ⟨(middle ++ ['/']).filter kept, fun s shape => ?_⟩⟩
  have edge : decide ('/'.toNat ≤ 0x20) = false := by decide
  have ended (front : List Char) : front ++ '/' :: ("api".toList ++ '/' :: (middle ++ ['/'])) =
      (front ++ "/api/".toList ++ middle) ++ ['/'] := by simp
  unfold cleanUrl
  dsimp only
  rw [shape, dropWhile_stopped (p := fun c => decide (c.toNat ≤ 0x20)) edge, ended,
    dropEndWhile_stopped (p := fun c => decide (c.toNat ≤ 0x20)) edge, List.append_assoc, List.append_assoc,
    List.filter_append]
  rfl

theorem scheme_of_readFile? {cs : List Char} {u : Url} (found : readFile? cs = some u) : u.scheme = "file" := by
  unfold readFile? at found
  dsimp only at found
  split at found
  · split at found
    · obtain ⟨parts, -, rfl⟩ := Option.map_eq_some_iff.1 found
      split <;> rfl
    · cases found
      rfl
  · cases found
    rfl
  · cases found
    rfl

theorem scheme_of_readAuthority? {scheme : String} {cs : List Char} {u : Url}
    (found : readAuthority? scheme cs = some u) : u.scheme = scheme := by
  unfold readAuthority? at found
  dsimp only at found
  split at found
  all_goals
    obtain ⟨written, -, port⟩ := Option.bind_eq_some_iff.1 found
    obtain ⟨number, -, made⟩ := Option.bind_eq_some_iff.1 port
    split at made
    · cases made
    · cases made
      rfl

theorem scheme_of_readOther? {scheme : String} {cs : List Char} {u : Url}
    (found : readOther? scheme cs = some u) : u.scheme = scheme := by
  unfold readOther? at found
  split at found
  · exact scheme_of_readAuthority? found
  · cases found
    rfl
  · cases found
    rfl

def OnRoute (base : List Char) (s : String) : Prop :=
  ∃ middle, s.toList = base ++ '/' :: ("api".toList ++ '/' :: (middle ++ ['/']))

section Route
variable {base : List Char} {s s' : String} {u u' : Url}

theorem kindOf_web {scheme : String} (web : scheme = "http" ∨ scheme = "https") : kindOf scheme = .web := by
  rcases web with rfl | rfl <;> rfl

/-- What stands behind the front of a route has no part in where its URL leads. -/
theorem read?_seat (on : OnRoute base s) (on' : OnRoute base s') (found : Url.read? s = some u)
    (web : u.scheme = "http" ∨ u.scheme = "https") : ∃ u', Url.read? s' = some u' ∧ u'.seat = u.seat := by
  obtain ⟨front, cleaned⟩ := exists_cleaned base
  obtain ⟨middle, shape⟩ := on
  obtain ⟨middle', shape'⟩ := on'
  obtain ⟨tail, clean⟩ := cleaned middle
  obtain ⟨tail', clean'⟩ := cleaned middle'
  unfold Url.read? at found ⊢
  rw [clean s shape] at found
  rw [clean' s' shape']
  obtain ⟨⟨scheme, rest⟩, cut, read⟩ := Option.bind_eq_some_iff.1 found
  obtain ⟨before, rfl, cut'⟩ := cutScheme_behind cut
  rw [cut' _, Option.bind_eq_bind, Option.bind_some]
  dsimp only at read ⊢
  cases kind : kindOf scheme with
  | file =>
    rw [kind] at read
    rw [scheme_of_readFile? read] at web
    exact absurd web (by decide)
  | other =>
    rw [kind] at read
    rw [← scheme_of_readOther? read, kindOf_web web] at kind
    cases kind
  | web =>
    rw [kind] at read
    -- the route begins with a letter, so slashes are dropped in front of it at most
    have dropped (tail : List Char) :
        (before ++ '/' :: ("api".toList ++ '/' :: tail)).dropWhile SchemeKind.web.isSlash =
          ((before ++ ['/']).dropWhile SchemeKind.web.isSlash ++ "api".toList) ++ '/' :: tail := by
      rw [List.append_cons, List.append_assoc _ "api".toList]
      exact dropWhile_stopped (p := SchemeKind.web.isSlash) (c := 'a') (by decide) (before ++ ['/'])
        ("pi".toList ++ '/' :: tail)
    rw [dropped] at read
    rw [dropped]
    have same := readAuthority?_seat scheme _ tail tail' ▸ congrArg (Option.map Url.seat) read
    exact Option.map_eq_some_iff.1 same

theorem withoutUser_seat (u : Url) : u.withoutUser.seat = u.seat.withoutUser := by
  unfold Url.withoutUser
  dsimp only [Url.seat]
  split
  · rfl
  · exact apply_ite Url.seat _ _ _

theorem scheme_of_requestedUrl {url : String} (requested : requestedUrl u = .ok url) :
    u.scheme = "http" ∨ u.scheme = "https" := by
  have scheme : u.withoutUser.scheme = u.scheme := by
    unfold Url.withoutUser
    split
    · rfl
    · split <;> rfl
  unfold requestedUrl at requested
  dsimp only at requested
  split at requested
  · rename_i sendable
    simp only [Bool.and_eq_true, Bool.or_eq_true, decide_eq_true_eq, scheme] at sendable
    exact sendable.1.1
  · cases requested

theorem requestedUrl_of_seat {url : String} (requested : requestedUrl u = .ok url) (same : u'.seat = u.seat) :
    requestedUrl u' = if u'.withoutUser.text.utf8ByteSize ≤ urlLimit then .ok u'.withoutUser.text
      else .error (.builder (some u'.withoutUser.text)) := by
  have alike : u'.withoutUser.seat = u.withoutUser.seat := by
    rw [withoutUser_seat, withoutUser_seat, same]
  have scheme : u'.withoutUser.scheme = u.withoutUser.scheme := (congrArg Url.scheme alike :)
  have host : u'.withoutUser.host = u.withoutUser.host := (congrArg Url.host alike :)
  unfold requestedUrl at requested ⊢
  dsimp only at requested ⊢
  rw [scheme, host]
  split at requested
  · rename_i sendable
    rw [Bool.and_eq_true] at sendable
    rw [sendable.1]
    simp only [Bool.true_and, decide_eq_true_eq]
  · cases requested

end Route

section Client
variable {c : Client} {route route' : String}

def Client.Addresses (c : Client) (route url : String) : Prop :=
  ∃ u, Url.read? (c.baseUrl ++ route) = some u ∧ url = u.withoutUser.text

theorem Client.Addresses.unique {url url' : String} (one : c.Addresses route url) (other : c.Addresses route url') :
    url = url' := by
  obtain ⟨u, read, rfl⟩ := one
  obtain ⟨v, read', rfl⟩ := other
  cases read.symm.trans read'
  rfl

def Client.headers (c : Client) : List (String × String) :=
  [("authorization", "Token " ++ c.token), ("content-type", "application/json")]

/-- Requests on a route go to this URL, unless it is too long. -/
def Client.SendsTo (c : Client) (route url : String) : Prop :=
  ∀ method body, c.prepare method route body =
    if url.utf8ByteSize ≤ urlLimit then .ok { method, url, headers := c.headers, body }
    else .error (.builder (some url))

theorem destination_eq_ok {s : String} {u : Url} :
    destination s = .ok u ↔ Url.read? s = some u ∧ u.host.isSome = true := by
  unfold destination
  cases Url.read? s with
  | none => simp
  | some v =>
    dsimp only
    split
    · rename_i hosted
      constructor
      · intro same
        cases same
        exact ⟨rfl, hosted⟩
      · rintro ⟨same, -⟩
        cases same
        rfl
    · rename_i unhosted
      constructor
      · intro same
        cases same
      · rintro ⟨same, hosted⟩
        cases same
        exact absurd hosted unhosted

theorem prepare_eq {method : Method} {body : Option Json.Value} {u : Url}
    (leads : destination (c.baseUrl ++ route) = .ok u) : c.prepare method route body =
      if isHeaderValue ("Token " ++ c.token) then
        (requestedUrl u).map fun url => { method, url, headers := c.headers, body }
      else .error (.builder none) := by
  rw [Client.prepare, leads]
  apply if_congr Iff.rfl
  · cases requestedUrl u <;> rfl
  · rfl

theorem prepare_eq_ok {method : Method} {body : Option Json.Value} {r : Request}
    (formed : c.prepare method route body = .ok r) : isHeaderValue ("Token " ++ c.token) = true ∧
      ∃ u url, destination (c.baseUrl ++ route) = .ok u ∧ requestedUrl u = .ok url := by
  cases leads : destination (c.baseUrl ++ route) with
  | error e =>
    rw [Client.prepare, leads] at formed
    cases formed
  | ok u =>
    rw [prepare_eq leads] at formed
    split at formed
    · rename_i authorized
      cases requested : requestedUrl u with
      | error e =>
        rw [requested] at formed
        cases formed
      | ok url => exact ⟨authorized, u, url, rfl, requested⟩
    · cases formed

/-- Where a request could be formed on one route, it can be formed on every route. -/
theorem exists_sendsTo {method : Method} {body : Option Json.Value} {r : Request}
    (on : OnRoute c.baseUrl.toList (c.baseUrl ++ route)) (on' : OnRoute c.baseUrl.toList (c.baseUrl ++ route'))
    (formed : c.prepare method route body = .ok r) :
    ∃ url, c.Addresses route' url ∧ c.SendsTo route' url := by
  obtain ⟨authorized, u, url, leads, requested⟩ := prepare_eq_ok formed
  obtain ⟨read, hosted⟩ := destination_eq_ok.1 leads
  obtain ⟨u', read', same⟩ := read?_seat on on' read (scheme_of_requestedUrl requested)
  have host : u'.host = u.host := (congrArg Url.host same :)
  have leads' : destination (c.baseUrl ++ route') = .ok u' := by
    rw [destination_eq_ok, host]
    exact ⟨read', hosted⟩
  refine ⟨u'.withoutUser.text, ⟨u', read', rfl⟩, fun method body => ?_⟩
  rw [prepare_eq leads', if_pos authorized, requestedUrl_of_seat requested same]
  split <;> rfl

end Client

theorem onRoute_checkRunner (base id : String) : OnRoute base.toList (base ++ Route.checkRunner id) := by
  refine ⟨"v3/".toList ++ id.toList ++ "/checkrunner".toList, ?_⟩
  simp [Route.checkRunner]

theorem onRoute_checkResults (base : String) : OnRoute base.toList (base ++ Route.checkResults) := by
  refine ⟨"v3/checkrunner".toList, ?_⟩
  simp [Route.checkResults]

end Steward.Web
