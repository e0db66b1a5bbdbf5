import Courier.Http.Response

/-! # Following redirects

A response may ask for its request to be sent elsewhere. The request that does so is a new one: it
has the limits of the first and those of its headers that still apply.
-/

namespace Courier.Redirect

/-- The headers that are kept from other origins. -/
def credentials : List HeaderName :=
  [.authorization, .cookie, .cookie2, .proxyAuthorization, .wwwAuthenticate]

/-- The headers that describe a body. -/
def bodyHeaders : List HeaderName := [.contentType, .contentLength]

/-- Whether an answer asks for a request without body in place of one with this method. -/
def asksForGet (status : Status) (method : Method) : Bool :=
  status.code = 303 || ((status.code = 301 || status.code = 302) && method = .post)

/-- Whether the request is followed by one without body. -/
def becomesGet (status : Status) (request : Request) : Bool :=
  asksForGet status request.method && request.method ≠ .head

/-- The headers of a request that apply at its next URL. -/
def headersFor (request : Request) (target : Url) (rewritten : Bool) : Headers :=
  let kept :=
    if request.url.sameOrigin target then request.headers
    else request.headers.removeAll credentials
  if rewritten then kept.removeAll bodyHeaders else kept

/-- The request that follows another to its next URL. -/
def follow (status : Status) (request : Request) (target : Url) : Request :=
  let rewritten := becomesGet status request
  { Request.new (if rewritten then .get else request.method) target with
    body := if rewritten then none else request.body
    headers := Headers.empty.extend (headersFor request target rewritten)
    timeouts := request.timeouts
    policy := request.policy
    bodyCap := request.bodyCap }

/-- The request that a response asks for next, if its own request lets redirects be followed. -/
def next? (response : Response) : Except Failure (Option Request) :=
  match response.request.policy with
  | .never => .ok none
  | .atMost limit =>
    if response.status.isFollowed then
      match response.location? with
      | .error failure => .error failure
      | .ok none => .ok none
      | .ok (some target) =>
        if limit ≤ response.redirects then
          .error ((Failure.of .redirect (.tooManyRedirects limit)).withUrl response.url)
        else .ok (some (follow response.status response.request target))
    else .ok none

/-- A redirect is followed only below the limit, under the same policy. -/
theorem next?_some {response : Response} {request : Request}
    (follows : next? response = .ok (some request)) :
    ∃ limit, response.request.policy = .atMost limit ∧ response.redirects < limit ∧
      request.policy = .atMost limit := by
  unfold next? at follows
  split at follows
  · cases follows
  · rename_i limit policy
    split at follows
    · split at follows
      · cases follows
      · cases follows
      · split at follows
        · cases follows
        · rename_i above
          cases follows
          exact ⟨limit, policy, UInt32.not_le.mp above, policy⟩
    · cases follows

end Courier.Redirect
