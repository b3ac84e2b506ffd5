import Movie.ActorPaths

/-!
# Reading actor paths

`parse_actor_path` with the check of addresses. The canonical form of an IPv6 text is a parameter.
-/
namespace Movie.ActorPaths

open Checked WireFrames

/-- `str(ipaddress.IPv6Address(host))`. -/
structure Canonicaliser where
 canonical:Text → Option Text
 colon:∀{host text},canonical host=some text → ':'∈text
 plain:∀{host text},canonical host=some text → '%'∉text →
  ∀character∈text,character.toNat<128 ∧ (character∈delimiters → character= ':')

def partition (separator:Text):Text → Option (Text×Text)
 | []=>none
 | first::rest=>
  if separator <+:first::rest then some ([],(first::rest).drop separator.length)
  else (partition separator rest).map fun parts=>(first::parts.1,parts.2)

def parsePort (value:Text):Except String ℕ:=do
 reject (value=[] ∨ value.all Char.isDigit=false) "Invalid actor path port"
 -- The limit of `int`.
 reject (4300<value.length) ("Exceeds the limit (4300 digits) for integer string conversion: " ++
  s!"value has {value.length} digits; use sys.set_int_max_str_digits() to increase the limit")
 reject (Nat.ofDigitChars 10 value 0 < 1 ∨ 65535<Nat.ofDigitChars 10 value 0)
  "Actor path port must be between 1 and 65535"
 return Nat.ofDigitChars 10 value 0

def hostOk (host:Text):Bool:=
 host.head?.any Char.isAlphanum && host.getLast?.any Char.isAlphanum &&
  host.all fun character=>character.isAlphanum || character == '.' || character == '-'

variable (ip:Canonicaliser)

def parseBracketed (host remaining:Text):Except String (Text×Option ℕ):=do
 reject (ip.canonical host=none) "Invalid actor path endpoint"
 reject (ip.canonical host≠some host) "Actor path IPv6 host is not canonical"
 match remaining with
 | []=>return (host,none)
 | first::port=>
  reject (first≠ ':') "Invalid actor path endpoint"
  return (host,some (← parsePort port))

def parseEndpoint (endpoint:Text):Except String (Text×Option ℕ):=do
 reject (endpoint=[] ∨ endpoint.all (·.toNat<128)=false) "Invalid actor path endpoint"
 if endpoint.head?=some '[' then
  match partition [']'] endpoint.tail with
  | none=>.error "Invalid actor path endpoint"
  | some (host,remaining)=>parseBracketed ip host remaining
 else
  reject (1<endpoint.count ':') "IPv6 hosts must use brackets"
  match partition [':'] endpoint with
  | none=>
   reject (hostOk endpoint=false) "Invalid actor path endpoint"
   return (endpoint,none)
  | some (host,port)=>
   reject (hostOk host=false) "Invalid actor path endpoint"
   return (host,some (← parsePort port))

def hostText (host:Text):Text:=if ':'∈host then '['::(host++[']']) else host

def endpointText (host:Text) (port:ℕ):Text:=hostText host++ ':'::Nat.toDigits 10 port

def protocolOk (protocol:Text):Bool:=
 protocol.head?.any Char.isAlpha && protocol.all fun character=>
  character.isAlphanum || character == '+' || character == '.' || character == '-'

def Address.create (protocol system:Text):
  Option Text → Option ℕ → Except String Address
 | host,port=>do
  reject (protocolOk protocol=false) "Invalid actor path protocol"
  reject (isRemoteName system=false) "Invalid actor system name"
  match host,port with
  | none,none=>return ⟨protocol,system,none,none⟩
  | none,some _=>.error "Actor path port requires a host"
  | some _,none=>.error "Actor path host requires a port"
  | some host,some port=>
   let endpoint ← parseEndpoint ip (endpointText host port)
   reject (endpoint≠(host,some port)) "Invalid actor path host or port"
   return ⟨protocol,system,some host,some port⟩

def Address.text (address:Address):Text:=
 address.protocol++ ':':: '/':: '/'::(address.system++match address.host,address.port with
  | none,_=>[]
  | some host,none=> '@'::hostText host
  | some host,some port=> '@'::endpointText host port)

def ActorPath.text (path:ActorPath):Text:=path.address.text++remotePath path.elements

/-- The part of `parse_actor_path` behind the authority. -/
def parseElements (value protocol system:Text) (endpoint:Option Text×Option ℕ)
  (remote:Text):Except String ActorPath:=
 if remote=[] then do return ⟨← Address.create ip protocol system endpoint.1 endpoint.2,[]⟩
 else do
  reject ((remote.splitOn '/').all isRemoteName=false)
   "Actor path contains a non-resolvable element"
  let address ← Address.create ip protocol system endpoint.1 endpoint.2
  reject (ActorPath.text ⟨address,remote.splitOn '/'⟩≠value) "Actor path is not canonical"
  return ⟨address,remote.splitOn '/'⟩

def parseAuthority (value protocol authority remote:Text):Except String ActorPath:=
 match partition ['@'] authority with
 | none=>do
  reject (isRemoteName authority=false) "Invalid actor system name"
  parseElements ip value protocol authority (none,none) remote
 | some (system,text)=>do
  reject (isRemoteName system=false) "Invalid actor system name"
  let endpoint ← parseEndpoint ip text
  parseElements ip value protocol system (some endpoint.1,endpoint.2) remote

def parseActorPath (value:Text):Except String ActorPath:=do
 reject (value.all (·.toNat<128)=false ∨ '#'∈value ∨ '?'∈value ∨ '%'∈value)
  "Actor path is not canonical"
 match partition [':','/','/'] value with
 | none=>.error "Invalid actor path"
 | some (protocol,remainder)=>
  match partition ['/'] remainder with
  | none=>.error "Invalid actor path"
  | some (authority,remote)=>
   reject (protocol≠movie ∨ authority=[]) "Invalid actor path"
   parseAuthority ip value protocol authority remote

lemma partition_eq_some {separator text front rest:Text}
  (h:partition separator text=some (front,rest)):text=front++(separator++rest):=by
 induction text generalizing front with
 | nil=>cases h
 | cons first text ih=>
  rw [partition] at h
  split_ifs at h with hstart
  · cases h
    exact (List.prefix_iff_eq_append.mp hstart).symm
  · obtain ⟨parts,hparts,heq⟩:=Option.map_eq_some_iff.mp h
    cases heq
    rw [ih hparts,List.cons_append]

lemma partition_append {character:Char} {front:Text} (h:character∉front) (rest:Text):
  partition [character] (front++character::rest)=some (front,rest):=by
 induction front with
 | nil=>simp [partition]
 | cons first front ih=>
  simp only [List.mem_cons,not_or] at h
  simp [partition,h.1,ih h.2]

lemma partition_eq_none {character:Char} {text:Text} (h:character∉text):
  partition [character] text=none:=by
 induction text with
 | nil=>rfl
 | cons first text ih=>
  simp only [List.mem_cons,not_or] at h
  simp [partition,h.1,ih h.2]

lemma parsePort_eq_ok {value:Text} {port:ℕ} (h:parsePort value=.ok port):
  (value≠[] ∧ value.all Char.isDigit=true) ∧ Nat.ofDigitChars 10 value 0=port ∧ 0<port:=by
 simp only [parsePort,bind_reject_eq_ok,not_or,Bool.not_eq_false] at h
 obtain ⟨hdigits,-,hrange,h⟩:=h
 cases h
 exact ⟨hdigits,rfl,by omega⟩

lemma hostOk_plain {host:Text} (h:hostOk host=true):
  ∀character∈host,character.toNat<128 ∧ character∉delimiters:=by
 simp only [hostOk,Bool.and_eq_true,List.all_eq_true] at h
 intro character hmem
 refine unreserved_ascii ?_
 have hin:=h.2 character hmem
 simp only [Bool.or_eq_true,beq_iff_eq] at hin
 simp only [unreserved,List.contains_cons,List.contains_nil,Bool.or_false,Bool.or_eq_true,
  beq_iff_eq]
 tauto

lemma parseEndpoint_eq_ok {endpoint host:Text} {port:ℕ}
  (h:parseEndpoint ip endpoint=.ok (host,some port)):
  (∃digits,endpoint=hostText host++ ':'::digits ∧ parsePort digits=.ok port) ∧
   (hostOk host=true ∨ ip.canonical host=some host):=by
 rw [parseEndpoint,bind_reject_eq_ok] at h
 obtain ⟨-,h⟩:=h
 by_cases hbracket:endpoint.head?=some '['
 · rw [if_pos hbracket] at h
   cases hparts:partition [']'] endpoint.tail with
   | none=>simp [hparts] at h
   | some parts=>
    obtain ⟨found,remaining⟩:=parts
    simp only [hparts,parseBracketed,bind_reject_eq_ok,not_not] at h
    have htail:=partition_eq_some hparts
    cases remaining with
    | nil=>simp [pure,Except.pure] at h
    | cons first digits=>
     simp only [bind_reject_eq_ok,not_not] at h
     obtain ⟨-,hcanonical,rfl,h⟩:=h
     obtain ⟨number,hport,h⟩:=bind_eq_ok h
     cases h
     refine ⟨⟨digits,?_,hport⟩,.inr hcanonical⟩
     rw [hostText,if_pos (ip.colon hcanonical),List.cons_append,List.append_assoc,←htail]
     exact (List.cons_head?_tail hbracket).symm
 · rw [if_neg hbracket,bind_reject_eq_ok] at h
   cases hparts:partition [':'] endpoint with
   | none=>simp [hparts,bind_reject_eq_ok,pure,Except.pure] at h
   | some parts=>
    obtain ⟨found,digits⟩:=parts
    simp only [hparts,bind_reject_eq_ok,Bool.not_eq_false] at h
    obtain ⟨-,hhost,h⟩:=h
    obtain ⟨number,hport,h⟩:=bind_eq_ok h
    cases h
    refine ⟨⟨digits,?_,hport⟩,.inl hhost⟩
    rw [hostText,if_neg fun hcolon=>(hostOk_plain hhost _ hcolon).2 (by decide)]
    exact partition_eq_some hparts

lemma digitChar_toNat {digit:Char} (h:digit.isDigit=true):
  digit.toNat- '0'.toNat<10 ∧ (digit.toNat- '0'.toNat).digitChar=digit:=by
 have hrange:48≤digit.toNat ∧ digit.toNat≤57:=Char.isDigit_iff_toNat.mp h
 have hall:∀n:Fin 10,n.val.digitChar=Char.ofNat (48+n.val):=by decide
 have hlt:digit.toNat- '0'.toNat<10:=by
  change digit.toNat-48<10
  omega
 refine ⟨hlt,(hall ⟨_,hlt⟩).trans ?_⟩
 change Char.ofNat (48+(digit.toNat-48))=digit
 rw [Nat.add_sub_cancel' hrange.1,Char.ofNat_toNat]

lemma toDigits_ofDigitChars {digits:Text} (hne:digits≠[])
  (h:digits.all Char.isDigit=true) (hzero:digits.head?≠some '0'):
  Nat.toDigits 10 (Nat.ofDigitChars 10 digits 0)=digits ∧ 0<Nat.ofDigitChars 10 digits 0:=by
 induction digits using List.reverseRecOn with
 | nil=>exact absurd rfl hne
 | append_singleton digits digit ih=>
  simp only [List.all_append,Bool.and_eq_true,List.all_cons,List.all_nil,and_true] at h
  have hdigit:=digitChar_toNat h.2
  rw [Nat.ofDigitChars_append,Nat.ofDigitChars_cons,Nat.ofDigitChars_nil]
  by_cases hempty:digits=[]
  · subst hempty
    rw [Nat.ofDigitChars_nil,Nat.mul_zero,Nat.zero_add,Nat.toDigits_of_lt_base hdigit.1]
    refine ⟨by rw [hdigit.2]; rfl,Nat.pos_of_ne_zero fun hvalue=>hzero ?_⟩
    rw [←hdigit.2,hvalue]
    rfl
  · rw [List.head?_append_of_ne_nil _ hempty] at hzero
    obtain ⟨hrest,hpos⟩:=ih hempty h.1 hzero
    rw [←Nat.toDigits_append_toDigits (by decide) hpos hdigit.1,hrest,
     Nat.toDigits_of_lt_base hdigit.1,hdigit.2]
    exact ⟨rfl,by omega⟩

lemma head_toDigits {number:ℕ} (h:0<number):(Nat.toDigits 10 number).head?≠some '0':=by
 induction number using Nat.strongRecOn with
 | ind number ih=>
  by_cases hlt:number<10
  · rw [Nat.toDigits_of_lt_base hlt]
    simp
    omega
  · rw [Nat.toDigits_of_base_le (by decide) (by omega),
     List.head?_append_of_ne_nil _ Nat.toDigits_ne_nil]
    exact ih _ (by omega) (by omega)

lemma create_eq_ok {protocol system:Text} {host:Option Text} {port:Option ℕ} {address:Address}
  (h:Address.create ip protocol system host port=.ok address):
  address=⟨protocol,system,host,port⟩ ∧ isRemoteName system=true ∧
   ((host=none ∧ port=none) ∨ ∃name number,host=some name ∧ port=some number ∧
    parseEndpoint ip (endpointText name number)=.ok (name,some number)):=by
 simp only [Address.create,bind_reject_eq_ok,Bool.not_eq_false] at h
 obtain ⟨-,hsystem,h⟩:=h
 cases host with
 | none=>
  cases port with
  | none=>
   cases h
   exact ⟨rfl,hsystem,.inl ⟨rfl,rfl⟩⟩
  | some number=>cases h
 | some name=>
  cases port with
  | none=>cases h
  | some number=>
   obtain ⟨endpoint,hendpoint,h⟩:=bind_eq_ok h
   rw [bind_reject_eq_ok,not_not] at h
   obtain ⟨rfl,h⟩:=h
   cases h
   exact ⟨rfl,hsystem,.inr ⟨name,number,rfl,rfl,hendpoint⟩⟩

lemma parseElements_eq_ok {value protocol system remote:Text}
  {endpoint:Option Text×Option ℕ} {path:ActorPath}
  (h:parseElements ip value protocol system endpoint remote=.ok path):
  (remote≠[] ∧ path.text=value) ∨ ((remote=[] ∧ path.elements=[]) ∧
    Address.create ip protocol system endpoint.1 endpoint.2=.ok path.address):=by
 unfold parseElements at h
 split_ifs at h with hremote
 · obtain ⟨address,haddress,h⟩:=bind_eq_ok h
   cases h
   exact .inr ⟨⟨hremote,rfl⟩,haddress⟩
 · rw [bind_reject_eq_ok] at h
   obtain ⟨address,-,h⟩:=bind_eq_ok h.2
   rw [bind_reject_eq_ok,not_not] at h
   obtain ⟨htext,h⟩:=h
   cases h
   exact .inl ⟨hremote,htext⟩

lemma parseActorPath_eq_ok {value:Text} {path:ActorPath} (h:parseActorPath ip value=.ok path):
  ∃remainder authority remote,partition [':','/','/'] value=some (movie,remainder) ∧
   partition ['/'] remainder=some (authority,remote) ∧
   parseAuthority ip value movie authority remote=.ok path:=by
 rw [parseActorPath,bind_reject_eq_ok] at h
 obtain ⟨-,h⟩:=h
 cases hvalue:partition [':','/','/'] value with
 | none=>simp [hvalue] at h
 | some parts=>
  obtain ⟨protocol,remainder⟩:=parts
  cases hremainder:partition ['/'] remainder with
  | none=>simp [hvalue,hremainder] at h
  | some halves=>
   simp only [hvalue,hremainder,bind_reject_eq_ok,not_or,not_not] at h
   obtain ⟨⟨rfl,-⟩,h⟩:=h
   exact ⟨remainder,_,_,rfl,hremainder,h⟩

/-- The text names no actor element, and a port with a leading zero ends its authority. -/
def portPadded (value:Text):Bool:=
 match partition [':','/','/'] value with
 | some (_,remainder)=>
  match partition ['/'] remainder with
  | some (authority,[])=>
   match partition [':'] authority.reverse with
   | some (port,_)=>port.getLast?==some '0'
   | none=>false
  | _=>false
 | none=>false

/-- An accepted text is rendered again, unless it names a root and writes its port with a
 leading zero. -/
theorem parse_canonical (ip:Canonicaliser) (value:Text) (path:ActorPath)
  (h:parseActorPath ip value=.ok path):path.text=value ↔ portPadded value=false:=by
 obtain ⟨remainder,authority,remote,hvalue,hremainder,h⟩:=parseActorPath_eq_ok ip h
 have hparts:=partition_eq_some hvalue
 rw [partition_eq_some hremainder] at hparts
 simp only [portPadded,hvalue,hremainder]
 rw [parseAuthority] at h
 cases hauthority:partition ['@'] authority with
 | none=>
  simp only [hauthority,bind_reject_eq_ok,Bool.not_eq_false] at h
  have hcolon: ':'∉authority.reverse:=fun hmem=>
   (isRemoteName_ascii h.1 _ (List.mem_reverse.mp hmem)).2 (by decide)
  rcases parseElements_eq_ok ip h.2 with ⟨hremote,htext⟩|⟨⟨rfl,helements⟩,haddress⟩
  · exact iff_of_true htext (by cases remote <;> trivial)
  · refine iff_of_true ?_ (by simp only [partition_eq_none hcolon])
    rw [hparts,ActorPath.text,helements,(create_eq_ok ip haddress).1]
    simp [Address.text,remotePath]
 | some named=>
  obtain ⟨system,text⟩:=named
  simp only [hauthority,bind_reject_eq_ok] at h
  obtain ⟨⟨found,number⟩,hendpoint,h⟩:=bind_eq_ok h.2
  rcases parseElements_eq_ok ip h with ⟨hremote,htext⟩|⟨⟨rfl,helements⟩,haddress⟩
  · exact iff_of_true htext (by cases remote <;> trivial)
  · obtain ⟨haddress,-,hnone|⟨host,port,hhost,hnumber,-⟩⟩:=create_eq_ok ip haddress
    · cases hnone.1
    · cases hhost
      cases hnumber
      obtain ⟨⟨digits,htext,hdigits⟩,-⟩:=parseEndpoint_eq_ok ip hendpoint
      obtain ⟨⟨hne,hall⟩,hvalue,hpos⟩:=parsePort_eq_ok hdigits
      have hcolon: ':'∉digits.reverse:=fun hmem=>
       absurd (List.all_eq_true.mp hall _ (List.mem_reverse.mp hmem)) (by decide)
      have hlast:authority.reverse=digits.reverse++ ':'::(system++ '@'::hostText found).reverse:=by
       rw [partition_eq_some hauthority,htext]
       simp
      simp only [hlast,partition_append hcolon,List.getLast?_reverse,beq_eq_false_iff_ne]
      rw [hparts,partition_eq_some hauthority,ActorPath.text,helements,haddress,htext]
      have hsame:Nat.toDigits 10 port=digits ↔ digits.head?≠some '0':=
       ⟨fun heq=>heq▸head_toDigits hpos,fun hlead=>hvalue▸(toDigits_ofDigitChars hne hall hlead).1⟩
      simpa [Address.text,remotePath,endpointText] using hsame

def noIpv6 : Canonicaliser where
 canonical _:=none
 colon h:=by cases h
 plain h:=by cases h

theorem parse_canonical_port : ∃path,parseActorPath noIpv6
  (movie++[':','/','/','s','@','h',':','8','/'])=.ok path ∧ path.address.port=some 8 ∧
  path.text=movie++[':','/','/','s','@','h',':','8','/']:=
 ⟨_,rfl,rfl,(parse_canonical noIpv6 _ _ rfl).mpr rfl⟩

theorem root_port_padded : ∃path,parseActorPath noIpv6
  (movie++[':','/','/','s','@','h',':','0','8','/'])=.ok path ∧
  parseActorPath noIpv6
   (movie++[':','/','/','s','@','h',':','8','/'])=.ok path ∧
  path.text≠(movie++[':','/','/','s','@','h',':','0','8','/']):=
 ⟨⟨⟨movie,['s'],some ['h'],some 8⟩,[]⟩,rfl,rfl,by decide⟩

lemma parseElements_of_create {address:Address} {elements:List Text} (hne:elements≠[])
  (helements:∀element∈elements,isRemoteName element=true)
  (haddress:Address.create ip address.protocol address.system address.host address.port =
   .ok address):
  parseElements ip (ActorPath.text ⟨address,elements⟩) address.protocol address.system
   (address.host,address.port) (['/'].intercalate elements)=.ok ⟨address,elements⟩:=by
 have hsplit:(['/'].intercalate elements).splitOn '/'=elements:=
  splitOn_remotePath hne helements
 have hremote:['/'].intercalate elements≠[]:=by
  intro hempty
  rw [hempty] at hsplit
  exact absurd (helements [] (hsplit▸by decide)) (by decide)
 rw [parseElements,if_neg hremote,bind_reject_eq_ok,hsplit,Bool.not_eq_false,List.all_eq_true]
 refine ⟨helements,?_⟩
 rw [bind_of_ok haddress,bind_reject_eq_ok]
 exact ⟨not_not.mpr rfl,rfl⟩

def authorityChar (character:Char):Prop:=
 character.toNat<128 ∧ character∉['/','#','?','%']

lemma authorityChar_of_plain {character:Char}
  (h:character.toNat<128 ∧ character∉delimiters):authorityChar character:=
 ⟨h.1,fun hmem=>h.2 (List.mem_append_left ['@',':','[',']'] hmem)⟩

lemma endpointText_plain {host:Text} {port:ℕ}
  (h:parseEndpoint ip (endpointText host port)=.ok (host,some port)) (hzone: '%'∉host):
  ∀character∈endpointText host port,authorityChar character:=by
 have hhost:∀character∈host,authorityChar character:=by
  intro character hmem
  rcases (parseEndpoint_eq_ok ip h).2 with hok|hcanonical
  · exact authorityChar_of_plain (hostOk_plain hok character hmem)
  · have hplain:=ip.plain hcanonical hzone character hmem
    refine ⟨hplain.1,fun hin=>?_⟩
    have hcolon:=hplain.2 (List.mem_append_left ['@',':','[',']'] hin)
    exact absurd (hcolon▸hin) (by decide)
 have hdigits:∀character∈Nat.toDigits 10 port,authorityChar character:=by
  intro character hmem
  refine authorityChar_of_plain (unreserved_ascii ?_)
  have hdigit:=Nat.isDigit_of_mem_toDigits (by decide) (by decide) hmem
  simp [unreserved,Char.isAlphanum,hdigit]
 have hmarks:∀character∈['[',']',':'],authorityChar character:=by
  simp only [List.forall_mem_cons,List.not_mem_nil,false_imp_iff,implies_true,authorityChar]
  decide
 intro character hmem
 unfold endpointText hostText at hmem
 split_ifs at hmem <;> simp only [List.mem_append,List.mem_cons,List.not_mem_nil] at hmem
 · grind
 · grind

lemma parseActorPath_of_authority {authority:Text} {elements:List Text} {path:ActorPath}
  (hne:authority≠[]) (hauthority:∀character∈authority,authorityChar character)
  (helements:∀element∈elements,isRemoteName element=true)
  (h:parseAuthority ip (movie++ ':':: '/':: '/'::(authority++remotePath elements)) movie authority
   (['/'].intercalate elements)=.ok path):
  parseActorPath ip (movie++ ':':: '/':: '/'::(authority++remotePath elements))=.ok path:=by
 have hname {name:Text} (hok:isRemoteName name=true):∀character∈name,
   character.toNat<128 ∧ character∉['#','?','%']:=by
  intro character hin
  have hplain:=authorityChar_of_plain (isRemoteName_ascii hok character hin)
  exact ⟨hplain.1,fun hmark=>hplain.2 (.tail _ hmark)⟩
 have hremote:=forall_mem_remotePath (by decide) fun element hmem=>
  hname (helements element hmem)
 have hall:∀character∈movie++ ':':: '/':: '/'::(authority++remotePath elements),
   character.toNat<128 ∧ character∉['#','?','%']:=by
  refine List.forall_mem_append.mpr ⟨hname (by decide:isRemoteName movie=true),?_⟩
  simp only [List.forall_mem_append,List.forall_mem_cons]
  exact ⟨by decide,by decide,by decide,fun character hmem=>⟨(hauthority _ hmem).1,
   fun hmark=>(hauthority _ hmem).2 (.tail _ hmark)⟩,hremote⟩
 have hslash: '/'∉authority:=fun hmem=>(hauthority _ hmem).2 (by decide)
 have hscheme:partition [':','/','/'] (movie++ ':':: '/':: '/'::(authority++remotePath elements)) =
   some (movie,authority++remotePath elements):=by simp [partition]
 rw [parseActorPath,bind_reject_eq_ok,hscheme]
 refine ⟨?_,?_⟩
 · rintro (hascii|hmem|hmem|hmem)
   · rw [List.all_eq_true.mpr fun character hmem=>decide_eq_true (hall character hmem).1] at hascii
     cases hascii
   · exact (hall _ hmem).2 (by decide)
   · exact (hall _ hmem).2 (by decide)
   · exact (hall _ hmem).2 (by decide)
 · simp only [remotePath,partition_append hslash,bind_reject_eq_ok]
   exact ⟨by simp [hne],h⟩

/-- A resolvable path is read back from its text. -/
theorem parse_resolvable (ip:Canonicaliser) (path:ActorPath)
  (haddress:Address.create ip path.address.protocol path.address.system path.address.host
   path.address.port=.ok path.address)
  (hzone:∀host,path.address.host=some host → '%'∉host)
  (h:path.isRemoteResolvable=true):parseActorPath ip path.text=.ok path:=by
 obtain ⟨⟨hprotocol,hsystem⟩,hne,helements⟩:=resolvable_iff.mp h
 have hread:=parseElements_of_create ip hne helements haddress
 obtain ⟨⟨protocol,system,host,port⟩,elements⟩:=path
 dsimp only at hprotocol hsystem hne helements haddress hzone hread
 subst hprotocol
 have hname:∀character∈system,authorityChar character:=fun character hmem=>
  authorityChar_of_plain (isRemoteName_ascii hsystem character hmem)
 have hat: '@'∉system:=fun hmem=>(isRemoteName_ascii hsystem _ hmem).2 (by decide)
 have hnonempty:system≠[]:=by
  rintro rfl
  exact absurd hsystem (by decide)
 rcases (create_eq_ok ip haddress).2.2 with ⟨rfl,rfl⟩|⟨name,number,rfl,rfl,hendpoint⟩
 · have htext:ActorPath.text ⟨⟨movie,system,none,none⟩,elements⟩ =
    movie++ ':':: '/':: '/'::(system++remotePath elements):=by
    simp [ActorPath.text,Address.text]
   rw [htext] at hread ⊢
   refine parseActorPath_of_authority ip hnonempty hname helements ?_
   rw [parseAuthority,partition_eq_none hat]
   exact bind_reject_eq_ok.mpr ⟨by simp [hsystem],hread⟩
 · have htext:ActorPath.text
    ⟨⟨movie,system,some name,some number⟩,elements⟩ =
    movie++ ':':: '/':: '/'::((system++ '@'::endpointText name number)++remotePath elements):=by
    simp [ActorPath.text,Address.text]
   rw [htext] at hread ⊢
   refine parseActorPath_of_authority ip (by simp) ?_ helements ?_
   · have hplain:=endpointText_plain ip hendpoint (hzone name rfl)
     have hmark:authorityChar '@':=by
      unfold authorityChar
      decide
     intro character hmem
     simp only [List.mem_append,List.mem_cons] at hmem
     rcases hmem with hmem|rfl|hmem
     · exact hname character hmem
     · exact hmark
     · exact hplain character hmem
   · rw [parseAuthority,partition_append hat]
     refine bind_reject_eq_ok.mpr ⟨by simp [hsystem],?_⟩
     rw [bind_of_ok hendpoint]
     exact hread

theorem parse_resolvable_port : parseActorPath noIpv6
  (ActorPath.text ⟨⟨movie,['s'],some ['h'],some 8⟩,[['a']]⟩) =
   .ok ⟨⟨movie,['s'],some ['h'],some 8⟩,[['a']]⟩:=
 parse_resolvable noIpv6 _ rfl (by decide) (by decide)

end Movie.ActorPaths
