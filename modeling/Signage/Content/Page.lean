import Signage.Content.Placeholder
import Signage.Error

/-! Pages hosted elsewhere. -/
namespace Signage.Content

/-- What comes of asking for a page. -/
inductive Exchange where
  /-- There is no answer. -/
  | unreachable (reason : String)
  | answered (status : Nat) (body : Markup)

/-- The words for the status codes of failures. -/
def reasonPhrases : List (Nat × String) :=
  [(300, "Multiple Choices"), (304, "Not Modified"), (400, "Bad Request"), (401, "Unauthorized"),
    (402, "Payment Required"), (403, "Forbidden"), (404, "Not Found"),
    (405, "Method Not Allowed"), (406, "Not Acceptable"),
    (407, "Proxy Authentication Required"), (408, "Request Timeout"), (409, "Conflict"),
    (410, "Gone"), (411, "Length Required"), (412, "Precondition Failed"),
    (413, "Payload Too Large"), (414, "URI Too Long"), (415, "Unsupported Media Type"),
    (416, "Range Not Satisfiable"), (417, "Expectation Failed"), (418, "I'm a teapot"),
    (421, "Misdirected Request"), (422, "Unprocessable Entity"), (423, "Locked"),
    (424, "Failed Dependency"), (426, "Upgrade Required"), (428, "Precondition Required"),
    (429, "Too Many Requests"), (431, "Request Header Fields Too Large"),
    (451, "Unavailable For Legal Reasons"), (500, "Internal Server Error"),
    (501, "Not Implemented"), (502, "Bad Gateway"), (503, "Service Unavailable"),
    (504, "Gateway Timeout"), (505, "HTTP Version Not Supported"),
    (506, "Variant Also Negotiates"), (507, "Insufficient Storage"), (508, "Loop Detected"),
    (510, "Not Extended"), (511, "Network Authentication Required")]

def reasonPhrase (status : Nat) : String :=
  (reasonPhrases.lookup status).getD "<unknown status code>"

def isSuccess (status : Nat) : Bool := 200 ≤ status && status < 300

/-- The markup of a page, or why there is none. -/
def pageMarkup (url : List Char) : Exchange → Except Error Markup
  | .unreachable reason => .error (.external s!"{String.ofList url}: {reason}")
  | .answered status body =>
    if isSuccess status then .ok body
    else
      .error (.external (String.ofList
        (url ++ " returned ".toList ++ Text.numeral status ++ ' ' :: (reasonPhrase status).toList)))

end Signage.Content
