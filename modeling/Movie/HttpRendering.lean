import Movie.Checked
import Movie.Lines

/-!
# Rendering an HTTP response

`HttpResponse` of `http/model.py` and `render_response` of `http/codec.py`.
-/
namespace Movie.HttpRendering

open Checked Lines

abbrev HttpHeaders:=List (String×String)

structure HttpResponse where
 status:ℕ
 headers:HttpHeaders
 body:List UInt8
 reason:Option String
 status_bounds:100 ≤ status ∧ status≤599
 names:∀header∈headers,header.1 ≠ ""

/-- `str.lower` for the letters that it maps into ASCII, as are all the words it is compared
 with; 0x212A is the kelvin sign. -/
def lower (text:String):String:=
 String.ofList (text.toList.map fun c=>if c.toNat=0x212A then 'k' else c.toLower)

def isSpace (c:Char):Bool:=
 decide (9≤c.toNat ∧ c.toNat≤13 ∨ 28≤c.toNat ∧ c.toNat≤32 ∨ 0x2000≤c.toNat ∧ c.toNat≤0x200A ∨
  c.toNat∈[0x85,0xA0,0x1680,0x2028,0x2029,0x202F,0x205F,0x3000])

def strip (text:List Char):List Char:=
 ((text.dropWhile isSpace).reverse.dropWhile isSpace).reverse

def escape (quote c:Char):List Char:=
 if c=quote ∨ c = '\\' then ['\\',c]
 else if c = '\t' then ['\\','t']
 else if c = '\n' then ['\\','n']
 else if c = '\r' then ['\\','r']
 else if c.toNat<32 ∨ 127≤c.toNat ∧ c.toNat≤160 ∨ c.toNat=173 then
  ['\\','x',Nat.digitChar (c.toNat / 16),Nat.digitChar (c.toNat % 16)]
 else [c]

/-- `repr` of a Latin-1 text; 39 and 34 are the two quotes. -/
def repr (text:String):String:=
 let quote:=if Char.ofNat 39∈text.toList ∧ Char.ofNat 34∉text.toList then Char.ofNat 34
  else Char.ofNat 39
 String.ofList (quote::text.toList.flatMap (escape quote)++[quote])

def reasons : List (ℕ×String):=
 [(100, "Continue"),(200, "OK"),(201, "Created"),(202, "Accepted"),(204, "No Content"),
  (301, "Moved Permanently"),(302, "Found"),(304, "Not Modified"),(400, "Bad Request"),
  (404, "Not Found"),(405, "Method Not Allowed"),(408, "Request Timeout"),
  (413, "Content Too Large"),(414, "URI Too Long"),(431, "Request Header Fields Too Large"),
  (500, "Internal Server Error"),(501, "Not Implemented"),(503, "Service Unavailable")]

def reasonOf (response:HttpResponse):String:=
 response.reason.getD ((reasons.lookup response.status).getD "")

def latin1Bytes (text:String):List UInt8:=text.toList.map fun c=>UInt8.ofNat c.toNat

def Encodes (limit:ℕ) (text:String):Prop:=∀c∈text.toList,c.toNat<limit

instance (limit:ℕ) (text:String):Decidable (Encodes limit text):=
 List.decidableBAll (fun c:Char=>c.toNat<limit) text.toList

def decimal (n:ℕ):List UInt8:=(Nat.toDigits 10 n).map fun c=>UInt8.ofNat c.toNat

def control (byte:UInt8):Bool:=decide ((byte<32 ∧ byte≠9) ∨ byte=127)

def tokenBytes : List UInt8:=
 latin1Bytes "!#$%&'*+-.^_`|~0123456789ABCDEFGHIJKLMNOPQRSTUVWXYZabcdefghijklmnopqrstuvwxyz"

def headerValues (headers:HttpHeaders) (name:String):List String:=
 (headers.filter fun header=>lower header.1=lower name).map Prod.snd

def connectionClose (headers:HttpHeaders):Bool:=
 (headerValues headers "connection").any fun value=>
  (value.toList.splitOn ',').any fun token=>lower (String.ofList (strip token)) = "close"

def kept (header:String×String):Bool:=
 decide (lower header.1∉["content-length", "connection"])

def headerLine (header:String×String):List UInt8:=
 latin1Bytes header.1++latin1Bytes ": " ++ latin1Bytes header.2

def renderHeaders : HttpHeaders → Except String (List (List UInt8))
 | []=>return []
 | header::rest=>
  if kept header=false then renderHeaders rest
  else do
   reject (lower header.1∈["transfer-encoding", "trailer"])
    ("HTTP response header " ++ repr header.1 ++ " conflicts with fixed-length framing")
   reject (¬Encodes 128 header.1 ∨ ¬Encodes 256 header.2)
    "HTTP response headers must use ASCII names and Latin-1 values"
   reject (latin1Bytes header.1=[] ∨ ∃byte∈latin1Bytes header.1,byte∉tokenBytes)
    "Malformed HTTP response header name"
   reject (∃byte∈latin1Bytes header.2,control byte=true)
    "HTTP response header values contain invalid control bytes"
   return (headerLine header++crlf)::(← renderHeaders rest)

def statusLine (response:HttpResponse):List UInt8:=
 latin1Bytes "HTTP/1.1 " ++ decimal response.status++latin1Bytes " " ++
  latin1Bytes (reasonOf response)

def contentLengthLine (length:ℕ):List UInt8:=latin1Bytes "Content-Length: " ++ decimal length

def connectionLine : List UInt8:=latin1Bytes "Connection: close"

def renderResponse (response:HttpResponse) (close headRequest:Bool):
  Except String (List UInt8):=do
 reject (100 ≤ response.status ∧ response.status<200)
  "Informational HTTP responses are not supported"
 let closing:=close || connectionClose response.headers
 reject ('\r' ∈ (reasonOf response).toList ∨ '\n' ∈ (reasonOf response).toList)
  "HTTP response reason must not contain line breaks"
 reject (¬Encodes 256 (reasonOf response)) "HTTP response reason must be Latin-1"
 reject (∃byte∈statusLine response,control byte=true)
  "HTTP response reason contains invalid control bytes"
 let bodyAllowed:=decide (response.status∉[204,205,304])
 reject (bodyAllowed=false ∧ response.body≠[])
  ("HTTP " ++ toString response.status ++ " responses must not contain a body")
 let contentLength:=if bodyAllowed then response.body.length else 0
 let payload:=if headRequest=true ∨ bodyAllowed=false then [] else response.body
 let rendered ← renderHeaders response.headers
 let framing:=if response.status∉[204,304] then [contentLengthLine contentLength++crlf]
  else []
 let connection:=if closing then [connectionLine++crlf] else []
 return statusLine response++crlf++(rendered++framing++connection).flatten++crlf ++
  payload

section

lemma decimal_clean (n:ℕ):13∉decimal n:=by
 intro hmem
 obtain ⟨c,hc,hbyte⟩:=List.mem_map.mp hmem
 have hdigit:=Nat.isDigit_of_mem_toDigits (by decide) (by decide) hc
 simp only [Char.isDigit,Bool.and_eq_true,decide_eq_true_eq] at hdigit
 have hlow:48 ≤ c.toNat:=hdigit.1
 have hhigh:c.toNat≤57:=hdigit.2
 have hvalue:=congrArg UInt8.toNat hbyte
 simp only [UInt8.toNat_ofNat'] at hvalue
 have h13:(13:UInt8).toNat=13:=rfl
 omega

lemma contentLengthLine_clean (length:ℕ):Clean (contentLengthLine length):=by
 constructor
 · simp [contentLengthLine,latin1Bytes]
 · have hname:13∉latin1Bytes "Content-Length: " := by decide
   simp [contentLengthLine,hname,decimal_clean length]

lemma clean_of_control {line:List UInt8} (hne:line≠[])
  (h:¬∃byte∈line,control byte=true):Clean line:=
 ⟨hne,fun hmem=>h ⟨13,hmem,by decide⟩⟩

lemma statusLine_ne_nil (response:HttpResponse):statusLine response≠[]:=by
 simp [statusLine,latin1Bytes]

lemma not_token_13 : 13∉tokenBytes:=by decide

lemma headerLine_clean {header:String×String} (hname:¬∃byte∈latin1Bytes header.1,byte∉tokenBytes)
  (hvalue:¬∃byte∈latin1Bytes header.2,control byte=true):Clean (headerLine header):=by
 have hseparator:13∉latin1Bytes ": " := by decide
 have hname13:13∉latin1Bytes header.1:=fun hmem=>hname ⟨13,hmem,not_token_13⟩
 have hvalue13:13∉latin1Bytes header.2:=fun hmem=>hvalue ⟨13,hmem,by decide⟩
 constructor
 · simp [headerLine,latin1Bytes]
 · simp [headerLine,hseparator,hname13,hvalue13]

lemma renderHeaders_eq_ok {headers:HttpHeaders} {rendered:List (List UInt8)}
  (h:renderHeaders headers=.ok rendered):
  rendered=((headers.filter kept).map headerLine).map (·++crlf) ∧
   ∀header∈headers.filter kept,
    Clean (headerLine header) ∧ Encodes 128 header.1 ∧ Encodes 256 header.2:=by
 induction headers generalizing rendered with
 | nil=>
  cases h
  simp
 | cons header rest ih=>
  unfold renderHeaders at h
  split at h
  · rename_i hskipped
    simpa [hskipped] using ih h
  · rename_i hkept
    simp only [bind_reject_eq_ok,not_or,not_not] at h
    obtain ⟨-,⟨hname,hvalue⟩,⟨-,htoken⟩,hcontrol,h⟩:=h
    obtain ⟨others,hothers,h⟩:=bind_eq_ok h
    cases h
    obtain ⟨rfl,hclean⟩:=ih hothers
    have hheader:=headerLine_clean htoken hcontrol
    simp only [Bool.not_eq_false] at hkept
    simp only [List.filter_cons_of_pos hkept,List.map_cons,List.forall_mem_cons]
    exact ⟨trivial,⟨hheader,hname,hvalue⟩,hclean⟩

def headerLines (response:HttpResponse) (close:Bool):List (List UInt8):=
 (response.headers.filter kept).map headerLine ++
  (if response.status∈[204,304] then [] else [contentLengthLine response.body.length]) ++
  (if close || connectionClose response.headers then [connectionLine] else [])

lemma headerLines_clean {response:HttpResponse} (close:Bool)
  (h:∀header∈response.headers.filter kept,Clean (headerLine header)):
  ∀line∈headerLines response close,Clean line:=by
 intro line hmem
 simp only [headerLines,List.mem_append,List.mem_ite_nil_left,List.mem_ite_nil_right,
  List.mem_singleton] at hmem
 rcases hmem with (hheader|⟨-,rfl⟩)|⟨-,rfl⟩
 · obtain ⟨header,hmember,rfl⟩:=List.mem_map.mp hheader
   exact h header hmember
 · exact contentLengthLine_clean _
 · exact ⟨by decide,by decide⟩

/-- Whatever texts a response is made of, its rendering is one header block, which ends at
 the first empty line, with the lines that belong there, and the body. -/
theorem response_framing_exact (response:HttpResponse) (close headRequest:Bool)
  {output:List UInt8} (h:renderResponse response close headRequest=.ok output):
  ∃block,partition (crlf++crlf) output =
   some (block,if headRequest=true ∨ response.status∈[204,205,304] then []
    else response.body) ∧
   split block=statusLine response::headerLines response close ∧
   Encodes 256 (reasonOf response) ∧
   ∀header∈response.headers.filter kept,
    Encodes 128 header.1 ∧ Encodes 256 header.2:=by
 simp only [renderResponse,bind_reject_eq_ok,not_not] at h
 obtain ⟨-,-,hreason,hstatus,hbody,h⟩:=h
 obtain ⟨rendered,hrendered,h⟩:=bind_eq_ok h
 obtain ⟨rfl,hheaders⟩:=renderHeaders_eq_ok hrendered
 have hfirst:=clean_of_control (statusLine_ne_nil response) hstatus
 have hlines:=headerLines_clean close fun header hmem=>(hheaders header hmem).1
 refine ⟨crlf.intercalate (statusLine response::headerLines response close),?_,
  split_intercalate _ _ hfirst hlines,hreason,fun header hmem=>(hheaders header hmem).2⟩
 rw [←partition_lines _ _ _ hfirst hlines]
 cases h
 congr 1
 unfold headerLines
 -- a response without a body has none to measure
 by_cases hempty:response.status∈[204,205,304] <;>
  by_cases hframed:response.status∈[204,304] <;>
   by_cases hclose:(close || connectionClose response.headers)=true <;> simp_all

lemma greeting_bounds : 100≤200 ∧ 200≤599:=by decide

lemma greeting_names : ∀header∈[("X-Id", "7")],header.1 ≠ "" := by decide

def greeting : HttpResponse:=
 ⟨200,[("X-Id", "7")],[104,105],none,greeting_bounds,greeting_names⟩

theorem response_framing_exact_greeting :
  ∃block,partition (crlf++crlf) (latin1Bytes "HTTP/1.1 200 OK" ++ crlf ++
   latin1Bytes "X-Id: 7" ++ crlf++latin1Bytes "Content-Length: 2" ++ crlf++crlf ++
   [104,105])=some (block,[104,105]) ∧
   split block=[latin1Bytes "HTTP/1.1 200 OK",latin1Bytes "X-Id: 7",
    latin1Bytes "Content-Length: 2"]:=by
 obtain ⟨block,hpartition,hsplit,-,-⟩:=
  response_framing_exact greeting false false rfl
 exact ⟨block,hpartition,hsplit⟩

end

end Movie.HttpRendering
