import SandboxTasks.Text.Ranges

namespace SandboxTasks.Http.Domain

inductive Direction where
  | rightward
  | leftward
  | digit
  | arabicDigit
  | mark
  | neutral
deriving DecidableEq, Repr

namespace Direction

/-- Characters that are not read from left to right: `R` from right to left, `E` and `A` digits, `M` marks,
`N` neither. -/
def rows : List Text.Ranges.Row := Text.Ranges.ofLines [
  "0-2fN 30-39E 3a-60N 7b-d7N f7N 2b9-2baN 2c2-2cfN 2d2-2edN 2ef-2ffN 300-36fM 375N 3f6N 483-489M 58a-58fN",
  "591-5bdM 5beR 5bfM 5c0R 5c1-5c2M 5c3R 5c4-5c5M 5c6R 5c7M 5d0-5f4R 606-607N 608R 609-60aN 60bR 60cN 60dR",
  "60e-60fN 610-61aM 61b-64aR 64b-65fM 660-669A 66aN 66b-66cA 66d-66fR 670M 671-6d5R 6d6-6dcM 6deN 6df-6e4M",
  "6e5-6e6R 6e7-6e8M 6e9N 6ea-6edM 6ee-6efR 6f0-6f9E 6fa-710R 711M 712-72fR 730-74aM 74d-7a5R 7a6-7b0M 7b1-7eaR",
  "7eb-7f3M 7f4-7f5R 7f6-7f9N 7faR 7fdM 7fe-815R 816-819M 81aR 81b-823M 824R 825-827M 828R 829-82dM 830-858R",
  "859-85bM 85e-88fR 897-89fM 8a0-8c9R 8ca-902M 93aM 93cM 941-948M 94dM 951-957M 962-963M 981M 9bcM 9c1-9c4M",
  "9cdM 9e2-9e3M 9f2-9f3N 9fbN 9fe-a02M a3cM a41-a51M a70-a71M a75M a81-a82M abcM ac1-ac8M acdM ae2-ae3M af1N",
  "afa-b01M b3cM b3fM b41-b44M b4d-b56M b62-b63M b82M bc0M bcdM bf3-bfaN c00M c04M c3cM c3e-c40M c46-c56M",
  "c62-c63M c78-c7eN c81M cbcM ccc-ccdM ce2-ce3M d00-d01M d3b-d3cM d41-d44M d4dM d62-d63M d81M dcaM dd2-dd6M",
  "e31M e34-e3aM e3fN e47-e4eM eb1M eb4-ebcM ec8-eceM f18-f19M f35M f37M f39M f3a-f3dN f71-f7eM f80-f84M",
  "f86-f87M f8d-fbcM fc6M 102d-1030M 1032-1037M 1039-103aM 103d-103eM 1058-1059M 105e-1060M 1071-1074M 1082M",
  "1085-1086M 108dM 109dM 135d-135fM 1390-1399N 1400N 169b-169cN 1712-1714M 1732-1733M 1752-1753M 1772-1773M",
  "17b7-17bdM 17c6M 17c9-17d3M 17dbN 17ddM 17f0-180aN 1885-1886M 18a9M 1920-1922M 1927-1928M 1932M 1939-193bM",
  "1940-1945N 19de-19ffN 1a17-1a18M 1a1bM 1a56M 1a58-1a60M 1a62M 1a65-1a6cM 1a73-1a7fM 1ab0-1b03M 1b34M",
  "1b36-1b3aM 1b3cM 1b42M 1b6b-1b73M 1b80-1b81M 1ba2-1ba5M 1ba8-1ba9M 1bab-1badM 1be6M 1be8-1be9M 1bedM",
  "1bef-1bf1M 1c2c-1c33M 1c36-1c37M 1cd0-1cd2M 1cd4-1ce0M 1ce2-1ce8M 1cedM 1cf4M 1cf8-1cf9M 1dc0-1dffM",
  "200c-20c1N 20d0-20f0M 2104-214dN 218a-2335N 237b-2394N 2396-26abN 26ad-27ffN 2900-2bffN 2ce5-2ceaN",
  "2cef-2cf1M 2cf9-2cffN 2d7fM 2de0-2dffM 2e00-3004N 3008-3020N 302a-302dM 3030N 3037N 303d-303fN 3099-309aM",
  "30a0N 30fbN 31c0-31e5N 4dc0-4dffN a490-a4c6N a60d-a60fN a66f-a672M a673N a674-a67dM a67e-a67fN a69e-a69fM",
  "a6f0-a6f1M a700-a721N a788N a802M a806M a80bM a825-a826M a828-a82bN a82cM a838-a839N a874-a877N a8c4-a8c5M",
  "a8e0-a8f1M a8ffM a926-a92dM a947-a951M a980-a982M a9b3M a9b6-a9b9M a9bc-a9bdM a9e5M aa29-aa2eM aa31-aa32M",
  "aa35-aa36M aa43M aa4cM aa7cM aab0M aab2-aab4M aab7-aab8M aabe-aabfM aac1M aaec-aaedM aaf6M ab6a-ab6bN abe5M",
  "abe8M abedM fb1eM fbb2-fbc2R fbc3-fdffN fe20-fe2fM fe45-fe46N fe73R 10101N 10140-1018cN 10190-101a0N 101fdM",
  "102e0M 102e1-102fbE 10376-1037aM 10800-1091bR 1091fN 10920-10a00R 10a01-10a0fM 10a10-10a35R 10a38-10a3fM",
  "10a40-10ae4R 10ae5-10ae6M 10aeb-10b35R 10b39-10b3fN 10b40-10d23R 10d24-10d27M 10d30-10d39A 10d40-10d4fR",
  "10d69-10d6dM 10d6e-10d8fR 10e60-10e7eA 10e80-10ea9R 10eab-10eacM 10ead-10ed0R 10ed1-10ed8N 10efa-10effM",
  "10f00-10f45R 10f46-10f50M 10f51-10f81R 10f82-10f85M 10f86-10ff6R 11001M 11038-11046M 11052-11065N 11070M",
  "11073-11074M 1107f-11081M 110b3-110b6M 110b9-110baM 110c2M 11100-11102M 11127-1112bM 1112d-11134M 11173M",
  "11180-11181M 111b6-111beM 111c9-111ccM 111cfM 1122f-11231M 11234M 11236-11237M 1123eM 11241M 112dfM",
  "112e3-112eaM 11300-11301M 1133b-1133cM 11340M 11366-11374M 113bb-113c0M 113ceM 113d0M 113d2M 113e1-113e2M",
  "11438-1143fM 11442-11444M 11446M 1145eM 114b3-114b8M 114baM 114bf-114c0M 114c2-114c3M 115b2-115b5M",
  "115bc-115bdM 115bf-115c0M 115dc-115ddM 11633-1163aM 1163dM 1163f-11640M 11660-1166cN 116abM 116adM",
  "116b0-116b5M 116b7M 1171d-1171fM 11722-11725M 11727-1172bM 1182f-11837M 11839-1183aM 1193b-1193cM 1193eM",
  "11943M 119d4-119dbM 119e0M 11a01-11a06M 11a09-11a0aM 11a33-11a38M 11a3b-11a3eM 11a47M 11a51-11a56M",
  "11a59-11a5bM 11a8a-11a96M 11a98-11a99M 11b60M 11b62-11b64M 11b66M 11c30-11c3dM 11c92-11ca7M 11caa-11cb0M",
  "11cb2-11cb3M 11cb5-11cb6M 11d31-11d45M 11d47M 11d90-11d91M 11d95M 11d97M 11ef3-11ef4M 11f00-11f01M",
  "11f36-11f3aM 11f40M 11f42M 11f5aM 11fd5-11ff1N 13440M 13447-13455M 1611e-16129M 1612d-1612fM 16af0-16af4M",
  "16b30-16b36M 16f4fM 16f8f-16f92M 16fe2N 16fe4M 1bc9d-1bc9eM 1cc00-1cef0N 1cf00-1cf46M 1d167-1d169M",
  "1d17b-1d182M 1d185-1d18bM 1d1aa-1d1adM 1d1e9-1d241N 1d242-1d244M 1d245N 1d300-1d356N 1da00-1da36M",
  "1da3b-1da6cM 1da75M 1da84M 1da9b-1daafM 1e000-1e08fM 1e130-1e136M 1e2aeM 1e2ec-1e2efM 1e2ffN 1e4ec-1e4efM",
  "1e5ee-1e5efM 1e6e3M 1e6e6M 1e6ee-1e6efM 1e6f5M 1e800-1e8cfR 1e8d0-1e8d6M 1e922-1e943R 1e944-1e94aM",
  "1e94b-1ed3dR 1eef0-1f12fN 1f16d-1f16fN 1f1adN 1f260-1fbfaN"]

def of (c : Nat) : Direction :=
  match (Text.Ranges.lookup? rows c).map (·.sign) with
  | some 'R' => .leftward
  | some 'E' => .digit
  | some 'A' => .arabicDigit
  | some 'M' => .mark
  | some _ => .neutral
  | none => .rightward

def turns (d : Direction) : Bool := d = .leftward || d = .arabicDigit

def isLeftward (ds : List Direction) : Bool :=
  ds.all (· ≠ .rightward) && !(ds.contains .digit && ds.contains .arabicDigit) &&
    ds.getLast?.any fun d => d = .leftward || d = .digit || d = .arabicDigit

def isRightward (ds : List Direction) : Bool :=
  ds.all (!turns ·) && ds.getLast?.any fun d => d = .rightward || d = .digit

/-- The label keeps to one direction; marks at its end do not count. -/
def fits (label : List Nat) : Bool :=
  let ds := label.map of
  let body := (ds.reverse.dropWhile (· = .mark)).reverse
  match ds with
  | [] => true
  | .leftward :: _ => isLeftward body
  | .rightward :: _ => isRightward body
  | _ => false

def agree (labels : List (List Nat)) : Bool :=
  !labels.any (·.any fun c => turns (of c)) || labels.all fits

end Direction

end SandboxTasks.Http.Domain
