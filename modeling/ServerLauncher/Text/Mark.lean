import ServerLauncher.Text.Table

/-!
This module contains the marks that are combined with the character in front of them. Marks of
different classes stand at different places of it, so that their order does not matter.
-/

namespace ServerLauncher.Text

/--
The marks, those without width (`N`) and those with (`S`), and their classes if they are not zero.
-/
def marks : Table := Table.parse "
300-314Ne6 315Ne8 316-319Ndc 31aNe8 31bNd8 31c-320Ndc 321-322Nca 323-326Ndc 327-328Nca 329-333Ndc
334-338N1 339-33cNdc 33d-33fNe6 340-341N 342Ne6 343-344N 345Nf0 346Ne6 347-349Ndc 34a-34cNe6
34d-34eNdc 34fN 350-352Ne6 353-356Ndc 357Ne6 358Ne8 359-35aNdc 35bNe6 35cNe9 35d-35eNea 35fNe9
360-361Nea 362Ne9 363-36fNe6 483-487Ne6 488-489N 591Ndc 592-595Ne6 596Ndc 597-599Ne6 59aNde 59bNdc
59c-5a1Ne6 5a2-5a7Ndc 5a8-5a9Ne6 5aaNdc 5ab-5acNe6 5adNde 5aeNe4 5afNe6 5b0Na 5b1Nb 5b2Nc 5b3Nd
5b4Ne 5b5Nf 5b6N10 5b7N11 5b8N12 5b9-5baN13 5bbN14 5bcN15 5bdN16 5bfN17 5c1N18 5c2N19 5c4Ne6
5c5Ndc 5c7N12 610-617Ne6 618N1e 619N1f 61aN20 64bN1b 64cN1c 64dN1d 64eN1e 64fN1f 650N20 651N21
652N22 653-654Ne6 655-656Ndc 657-65bNe6 65cNdc 65d-65eNe6 65fNdc 670N23 6d6-6dcNe6 6df-6e2Ne6
6e3Ndc 6e4Ne6 6e7-6e8Ne6 6eaNdc 6eb-6ecNe6 6edNdc 711N24 730Ne6 731Ndc 732-733Ne6 734Ndc
735-736Ne6 737-739Ndc 73aNe6 73b-73cNdc 73dNe6 73eNdc 73f-741Ne6 742Ndc 743Ne6 744Ndc 745Ne6
746Ndc 747Ne6 748Ndc 749-74aNe6 7a6-7b0N 7eb-7f1Ne6 7f2Ndc 7f3Ne6 7fdNdc 816-819Ne6 81b-823Ne6
825-827Ne6 829-82dNe6 859-85bNdc 897-898Ne6 899-89bNdc 89c-89fNe6 8ca-8ceNe6 8cf-8d3Ndc 8d4-8e1Ne6
8e3Ndc 8e4-8e5Ne6 8e6Ndc 8e7-8e8Ne6 8e9Ndc 8ea-8ecNe6 8ed-8efNdc 8f0N1b 8f1N1c 8f2N1d 8f3-8f5Ne6
8f6Ndc 8f7-8f8Ne6 8f9-8faNdc 8fb-8ffNe6 900-902N 903S 93aN 93bS 93cN7 93e-940S 941-948N 949-94cS
94dN9 94e-94fS 951Ne6 952Ndc 953-954Ne6 955-957N 962-963N 981N 982-983S 9bcN7 9be-9c0S 9c1-9c4N
9c7-9c8S 9cb-9ccS 9cdN9 9d7S 9e2-9e3N 9feNe6 a01-a02N a03S a3cN7 a3e-a40S a41-a42N a47-a48N
a4b-a4cN a4dN9 a51N a70-a71N a75N a81-a82N a83S abcN7 abe-ac0S ac1-ac5N ac7-ac8N ac9S acb-accS
acdN9 ae2-ae3N afa-affN b01N b02-b03S b3cN7 b3eS b3fN b40S b41-b44N b47-b48S b4b-b4cS b4dN9
b55-b56N b57S b62-b63N b82N bbe-bbfS bc0N bc1-bc2S bc6-bc8S bca-bccS bcdN9 bd7S c00N c01-c03S c04N
c3cN7 c3e-c40N c41-c44S c46-c48N c4a-c4cN c4dN9 c55N54 c56N5b c62-c63N c81N c82-c83S cbcN7 cbeS
cbfN cc0-cc4S cc6N cc7-cc8S cca-ccbS cccN ccdN9 cd5-cd6S ce2-ce3N cf3S d00-d01N d02-d03S d3b-d3cN9
d3e-d40S d41-d44N d46-d48S d4a-d4cS d4dN9 d57S d62-d63N d81N d82-d83S dcaN9 dcf-dd1S dd2-dd4N dd6N
dd8-ddfS df2-df3S e31N e34-e37N e38-e39N67 e3aN9 e47N e48-e4bN6b e4c-e4eN eb1N eb4-eb7N eb8-eb9N76
ebaN9 ebb-ebcN ec8-ecbN7a ecc-eceN f18-f19Ndc f35Ndc f37Ndc f39Nd8 f3e-f3fS f71N81 f72N82 f73N
f74N84 f75-f79N f7a-f7dN82 f7eN f7fS f80N82 f81N f82-f83Ne6 f84N9 f86-f87Ne6 f8d-f97N f99-fbcN
fc6Ndc 102b-102cS 102d-1030N 1031S 1032-1036N 1037N7 1038S 1039-103aN9 103b-103cS 103d-103eN
1056-1057S 1058-1059N 105e-1060N 1062-1064S 1067-106dS 1071-1074N 1082N 1083-1084S 1085-1086N
1087-108cS 108dNdc 108fS 109a-109cS 109dN 135d-135fNe6 1712-1713N 1714N9 1715S9 1732-1733N 1734S9
1752-1753N 1772-1773N 17b4-17b5N 17b6S 17b7-17bdN 17be-17c5S 17c6N 17c7-17c8S 17c9-17d1N 17d2N9
17d3N 17ddNe6 180b-180dN 180fN 1885-1886N 18a9Ne4 1920-1922N 1923-1926S 1927-1928N 1929-192bS
1930-1931S 1932N 1933-1938S 1939Nde 193aNe6 193bNdc 1a17Ne6 1a18Ndc 1a19-1a1aS 1a1bN 1a55S 1a56N
1a57S 1a58-1a5eN 1a60N9 1a61S 1a62N 1a63-1a64S 1a65-1a6cN 1a6d-1a72S 1a73-1a74N 1a75-1a7cNe6
1a7fNdc 1ab0-1ab4Ne6 1ab5-1abaNdc 1abb-1abcNe6 1abdNdc 1abeN 1abf-1ac0Ndc 1ac1-1ac2Ne6
1ac3-1ac4Ndc 1ac5-1ac9Ne6 1acaNdc 1acb-1adcNe6 1addNdc 1ae0-1ae5Ne6 1ae6Ndc 1ae7-1aeaNe6 1aebNea
1b00-1b03N 1b04S 1b34N7 1b35S 1b36-1b3aN 1b3bS 1b3cN 1b3d-1b41S 1b42N 1b43S 1b44S9 1b6bNe6 1b6cNdc
1b6d-1b73Ne6 1b80-1b81N 1b82S 1ba1S 1ba2-1ba5N 1ba6-1ba7S 1ba8-1ba9N 1baaS9 1babN9 1bac-1badN
1be6N7 1be7S 1be8-1be9N 1bea-1becS 1bedN 1beeS 1bef-1bf1N 1bf2-1bf3S9 1c24-1c2bS 1c2c-1c33N
1c34-1c35S 1c36N 1c37N7 1cd0-1cd2Ne6 1cd4N1 1cd5-1cd9Ndc 1cda-1cdbNe6 1cdc-1cdfNdc 1ce0Ne6 1ce1S
1ce2-1ce8N1 1cedNdc 1cf4Ne6 1cf7S 1cf8-1cf9Ne6 1dc0-1dc1Ne6 1dc2Ndc 1dc3-1dc9Ne6 1dcaNdc
1dcb-1dccNe6 1dcdNea 1dceNd6 1dcfNdc 1dd0Nca 1dd1-1df5Ne6 1df6Ne8 1df7-1df8Ne4 1df9Ndc 1dfaNda
1dfbNe6 1dfcNe9 1dfdNdc 1dfeNe6 1dffNdc 20d0-20d1Ne6 20d2-20d3N1 20d4-20d7Ne6 20d8-20daN1
20db-20dcNe6 20dd-20e0N 20e1Ne6 20e2-20e4N 20e5-20e6N1 20e7Ne6 20e8Ndc 20e9Ne6 20ea-20ebN1
20ec-20efNdc 20f0Ne6 2cef-2cf1Ne6 2d7fN9 2de0-2dffNe6 302aNda 302bNe4 302cNe8 302dNde 302e-302fSe0
3099-309aN8 a66fNe6 a670-a672N a674-a67dNe6 a69e-a69fNe6 a6f0-a6f1Ne6 a802N a806N9 a80bN
a823-a824S a825-a826N a827S a82cN9 a880-a881S a8b4-a8c3S a8c4N9 a8c5N a8e0-a8f1Ne6 a8ffN
a926-a92aN a92b-a92dNdc a947-a951N a952S a953S9 a980-a982N a983S a9b3N7 a9b4-a9b5S a9b6-a9b9N
a9ba-a9bbS a9bc-a9bdN a9be-a9bfS a9c0S9 a9e5N aa29-aa2eN aa2f-aa30S aa31-aa32N aa33-aa34S
aa35-aa36N aa43N aa4cN aa4dS aa7bS aa7cN aa7dS aab0Ne6 aab2-aab3Ne6 aab4Ndc aab7-aab8Ne6
aabe-aabfNe6 aac1Ne6 aaebS aaec-aaedN aaee-aaefS aaf5S aaf6N9 abe3-abe4S abe5N abe6-abe7S abe8N
abe9-abeaS abecS abedN9 fb1eN1a fe00-fe0fN fe20-fe26Ne6 fe27-fe2dNdc fe2e-fe2fNe6 101fdNdc
102e0Ndc 10376-1037aNe6 10a01-10a03N 10a05-10a06N 10a0cN 10a0dNdc 10a0eN 10a0fNe6 10a38Ne6 10a39N1
10a3aNdc 10a3fN9 10ae5Ne6 10ae6Ndc 10d24-10d27Ne6 10d69-10d6dNe6 10eab-10eacNe6 10efa-10efbNdc
10efcN 10efd-10effNdc 10f46-10f47Ndc 10f48-10f4aNe6 10f4bNdc 10f4cNe6 10f4d-10f50Ndc 10f82Ne6
10f83Ndc 10f84Ne6 10f85Ndc 11000S 11001N 11002S 11038-11045N 11046N9 11070N9 11073-11074N 1107fN9
11080-11081N 11082S 110b0-110b2S 110b3-110b6N 110b7-110b8S 110b9N9 110baN7 110c2N 11100-11102Ne6
11127-1112bN 1112cS 1112d-11132N 11133-11134N9 11145-11146S 11173N7 11180-11181N 11182S
111b3-111b5S 111b6-111beN 111bfS 111c0S9 111c9N 111caN7 111cb-111ccN 111ceS 111cfN 1122c-1122eS
1122f-11231N 11232-11233S 11234N 11235S9 11236N7 11237N 1123eN 11241N 112dfN 112e0-112e2S
112e3-112e8N 112e9N7 112eaN9 11300-11301N 11302-11303S 1133b-1133cN7 1133e-1133fS 11340N
11341-11344S 11347-11348S 1134b-1134cS 1134dS9 11357S 11362-11363S 11366-1136cNe6 11370-11374Ne6
113b8-113baS 113bb-113c0N 113c2S 113c5S 113c7-113caS 113cc-113cdS 113ceN9 113cfS9 113d0N9 113d2N
113e1-113e2N 11435-11437S 11438-1143fN 11440-11441S 11442N9 11443-11444N 11445S 11446N7 1145eNe6
114b0-114b2S 114b3-114b8N 114b9S 114baN 114bb-114beS 114bf-114c0N 114c1S 114c2N9 114c3N7
115af-115b1S 115b2-115b5N 115b8-115bbS 115bc-115bdN 115beS 115bfN9 115c0N7 115dc-115ddN
11630-11632S 11633-1163aN 1163b-1163cS 1163dN 1163eS 1163fN9 11640N 116abN 116acS 116adN
116ae-116afS 116b0-116b5N 116b6S9 116b7N7 1171dN 1171eS 1171fN 11720-11721S 11722-11725N 11726S
11727-1172aN 1172bN9 1182c-1182eS 1182f-11837N 11838S 11839N9 1183aN7 11930-11935S 11937-11938S
1193b-1193cN 1193dS9 1193eN9 11940S 11942S 11943N7 119d1-119d3S 119d4-119d7N 119da-119dbN
119dc-119dfS 119e0N9 119e4S 11a01-11a0aN 11a33N 11a34N9 11a35-11a38N 11a39S 11a3b-11a3eN 11a47N9
11a51-11a56N 11a57-11a58S 11a59-11a5bN 11a8a-11a96N 11a97S 11a98N 11a99N9 11b60N 11b61S
11b62-11b64N 11b65S 11b66N 11b67S 11c2fS 11c30-11c36N 11c38-11c3dN 11c3eS 11c3fN9 11c92-11ca7N
11ca9S 11caa-11cb0N 11cb1S 11cb2-11cb3N 11cb4S 11cb5-11cb6N 11d31-11d36N 11d3aN 11d3c-11d3dN
11d3f-11d41N 11d42N7 11d43N 11d44-11d45N9 11d47N 11d8a-11d8eS 11d90-11d91N 11d93-11d94S 11d95N
11d96S 11d97N9 11ef3-11ef4N 11ef5-11ef6S 11f00-11f01N 11f03S 11f34-11f35S 11f36-11f3aN
11f3e-11f3fS 11f40N 11f41S9 11f42N9 11f5aN 13440N 13447-13455N 1611e-16129N 1612a-1612cS
1612d-1612eN 1612fN9 16af0-16af4N1 16b30-16b36Ne6 16f4fN 16f51-16f87S 16f8f-16f92N 16fe4N
16ff0-16ff1S6 1bc9dN 1bc9eN1 1cf00-1cf2dN 1cf30-1cf46N 1d165-1d166Sd8 1d167-1d169N1 1d16dSe2
1d16e-1d172Sd8 1d17b-1d182Ndc 1d185-1d189Ne6 1d18a-1d18bNdc 1d1aa-1d1adNe6 1d242-1d244Ne6
1da00-1da36N 1da3b-1da6cN 1da75N 1da84N 1da9b-1da9fN 1daa1-1daafN 1e000-1e006Ne6 1e008-1e018Ne6
1e01b-1e021Ne6 1e023-1e024Ne6 1e026-1e02aNe6 1e08fNe6 1e130-1e136Ne6 1e2aeNe6 1e2ec-1e2efNe6
1e4ec-1e4edNe8 1e4eeNdc 1e4efNe6 1e5eeNe6 1e5efNdc 1e6e3Ne6 1e6e6Ne6 1e6ee-1e6efNe6 1e6f5Ne6
1e8d0-1e8d6Ndc 1e944-1e949Ne6 1e94aN7 e0100-e01efN
"

def isMark (c : Char) : Bool :=
  0x300 ≤ c.toNat && (marks.rowOf? c.toNat).isSome

/--
Whether a character is a mark without width.
-/
def isNarrowMark (c : Char) : Bool :=
  0x300 ≤ c.toNat && (marks.rowOf? c.toNat).any fun row => row.kind = 'N'

/--
The class of a mark. Marks of class zero, and characters that are no marks, keep their place.
-/
def markClass (c : Char) : Nat :=
  if c.toNat < 0x300 then 0
  else ((marks.rowOf? c.toNat).bind fun row => row.values.head?).getD 0

/--
The class of the marks that make a consonant lose its vowel.
-/
def vowelKillerClass : Nat := 9

end ServerLauncher.Text
