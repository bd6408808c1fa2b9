-- Composed text: a letter and its marks are one character where there is one for them, and
-- the marks that may change places stand in the order of their classes. The tables leave
-- out what may not stand in a domain name.
import ReviewDesk.Text.Table

namespace ReviewDesk.Domain

/-! ## Tables -/

/-- The class of the marks that may change places: the class, and the first and the last mark. -/
def classRows : Array (List Nat) := Table.rows "
  1-334-338 1-1cd4 1-1ce2-1ce8 1-20d2-20d3 1-20d8-20da 1-20e5-20e6 1-20ea-20eb 1-10a39
  1-16af0-16af4 1-1bc9e 1-1d167-1d169 6-16ff0-16ff1 7-93c 7-9bc 7-a3c 7-abc 7-b3c 7-c3c 7-cbc
  7-1037 7-1b34 7-1be6 7-1c37 7-a9b3 7-110ba 7-11173 7-111ca 7-11236 7-112e9 7-1133b-1133c
  7-11446 7-114c3 7-115c0 7-116b7 7-1183a 7-11943 7-11d42 7-1e94a 8-3099-309a 9-94d 9-9cd 9-a4d
  9-acd 9-b4d 9-bcd 9-c4d 9-ccd 9-d3b-d3c 9-d4d 9-dca 9-e3a 9-eba 9-f84 9-1039-103a 9-1714-1715
  9-1734 9-17d2 9-1a60 9-1b44 9-1baa-1bab 9-1bf2-1bf3 9-2d7f 9-a806 9-a82c 9-a8c4 9-a953 9-a9c0
  9-aaf6 9-abed 9-10a3f 9-11046 9-11070 9-1107f 9-110b9 9-11133-11134 9-111c0 9-11235 9-112ea
  9-1134d 9-113ce-113d0 9-11442 9-114c2 9-115bf 9-1163f 9-116b6 9-1172b 9-11839 9-1193d-1193e
  9-119e0 9-11a34 9-11a47 9-11a99 9-11c3f 9-11d44-11d45 9-11d97 9-11f41-11f42 9-1612f a-5b0
  a-5c8 b-5b1 c-5b2 d-5b3 e-5b4 f-5b5 10-5b6 11-5b7 12-5b8 12-5c7 13-5b9-5ba 14-5bb 15-5bc
  15-5c9 16-5bd 17-5bf 18-5c1 19-5c2 1a-fb1e 1b-64b 1b-8f0 1c-64c 1c-8f1 1d-64d 1d-8f2 1e-618
  1e-64e 1f-619 1f-64f 20-61a 20-650 21-651 22-652 23-670 24-711 54-c55 5b-c56 67-e38-e39
  6b-e48-e4b 76-eb8-eb9 7a-ec8-ecb 81-f71 82-f72 82-f7a-f7d 82-f80 84-f74 ca-321-322 ca-327-328
  ca-1dd0 d6-1dce d8-31b d8-f39 d8-1d165-1d166 d8-1d16e-1d172 da-1dfa da-302a dc-316-319
  dc-31c-320 dc-323-326 dc-329-333 dc-339-33c dc-347-349 dc-34d-34e dc-353-356 dc-359-35a dc-591
  dc-596 dc-59b dc-5a2-5a7 dc-5aa dc-5c5 dc-655-656 dc-65c dc-65f dc-6e3 dc-6ea dc-6ed dc-731
  dc-734 dc-737-739 dc-73b-73c dc-73e dc-742 dc-744 dc-746 dc-748 dc-7f2 dc-7fd dc-859-85b
  dc-899-89b dc-8cf-8d3 dc-8e3 dc-8e6 dc-8e9 dc-8ed-8ef dc-8f6 dc-8f9-8fa dc-952 dc-f18-f19
  dc-f35 dc-f37 dc-fc6 dc-108d dc-193b dc-1a18 dc-1a7f dc-1ab5-1aba dc-1abd dc-1abf-1ac0
  dc-1ac3-1ac4 dc-1aca dc-1add dc-1ae6 dc-1b6c dc-1cd5-1cd9 dc-1cdc-1cdf dc-1ced dc-1dc2 dc-1dca
  dc-1dcf dc-1df9 dc-1dfd dc-1dff dc-20e8 dc-20ec-20ef dc-a92b-a92d dc-aab4 dc-fe27-fe2d
  dc-101fd dc-102e0 dc-10a0d dc-10a3a dc-10ae6 dc-10efa-10efb dc-10efd-10eff dc-10f46-10f47
  dc-10f4b dc-10f4d-10f50 dc-10f83 dc-10f85 dc-1d17b-1d182 dc-1d18a-1d18b dc-1e4ee dc-1e5ef
  dc-1e8d0-1e8d6 de-59a de-5ad de-1939 de-302d e0-302e-302f e2-1d16d e4-5ae e4-18a9 e4-1df7-1df8
  e4-302b e6-300-314 e6-33d-346 e6-34a-34c e6-350-352 e6-357 e6-35b e6-363-36f e6-483-487
  e6-592-595 e6-597-599 e6-59c-5a1 e6-5a8-5a9 e6-5ab-5ac e6-5af e6-5c4 e6-610-617 e6-653-654
  e6-657-65b e6-65d-65e e6-6d6-6dc e6-6df-6e2 e6-6e4 e6-6e7-6e8 e6-6eb-6ec e6-730 e6-732-733
  e6-735-736 e6-73a e6-73d e6-73f-741 e6-743 e6-745 e6-747 e6-749-74a e6-7eb-7f1 e6-7f3
  e6-816-819 e6-81b-823 e6-825-827 e6-829-82d e6-897-898 e6-89c-89f e6-8ca-8ce e6-8d4-8e1
  e6-8e4-8e5 e6-8e7-8e8 e6-8ea-8ec e6-8f3-8f5 e6-8f7-8f8 e6-8fb-8ff e6-951 e6-953-954 e6-9fe
  e6-f82-f83 e6-f86-f87 e6-135d-135f e6-17dd e6-193a e6-1a17 e6-1a75-1a7c e6-1ab0-1ab4
  e6-1abb-1abc e6-1ac1-1ac2 e6-1ac5-1ac9 e6-1acb-1adc e6-1ade-1ae5 e6-1ae7-1aea e6-1aec-1af0
  e6-1b6b e6-1b6d-1b73 e6-1cd0-1cd2 e6-1cda-1cdb e6-1ce0 e6-1cf4 e6-1cf8-1cf9 e6-1dc0-1dc1
  e6-1dc3-1dc9 e6-1dcb-1dcc e6-1dd1-1df5 e6-1dfb e6-1dfe e6-20d0-20d1 e6-20d4-20d7 e6-20db-20dc
  e6-20e1 e6-20e7 e6-20e9 e6-20f0 e6-2cef-2cf1 e6-2de0-2dff e6-a66f e6-a674-a67d e6-a69e-a69f
  e6-a6f0-a6f1 e6-a8e0-a8f1 e6-aab0 e6-aab2-aab3 e6-aab7-aab8 e6-aabe-aabf e6-aac1 e6-fe20-fe26
  e6-fe2e-fe2f e6-10376-1037a e6-10a0f e6-10a38 e6-10ae5 e6-10d24-10d27 e6-10d69-10d6d
  e6-10eab-10eac e6-10ef0-10ef9 e6-10f48-10f4a e6-10f4c e6-10f82 e6-10f84 e6-11100-11102
  e6-11366-11374 e6-1145e e6-16b30-16b36 e6-1d185-1d189 e6-1d1aa-1d1ad e6-1d242-1d244
  e6-1e000-1e08f e6-1e130-1e136 e6-1e2ae e6-1e2ec-1e2ef e6-1e4ef e6-1e5ee e6-1e6e3 e6-1e6e6
  e6-1e6ee-1e6ef e6-1e6f5 e6-1e944-1e949 e8-315 e8-31a e8-358 e8-1df6 e8-302c e8-1e4ec-1e4ed
  e9-35c e9-35f e9-362 e9-1dfc ea-35d-35e ea-360-361 ea-1aeb ea-1dcd"

/-- A second part, and then each first part with the character that the two make up. -/
def compositeRows : Array (List Nat) := Table.rows "
  300-61-e0-65-e8-69-ec-6e-1f9-6f-f2-75-f9-77-1e81-79-1ef3
  300-e2-1ea7-ea-1ec1-f4-1ed3-fc-1dc-103-1eb1-113-1e15-14d-1e51-1a1-1edd
  300-1b0-1eeb-3b1-1f70-3b5-1f72-3b7-1f74-3b9-1f76-3bf-1f78-3c5-1f7a-3c9-1f7c
  300-3ca-1fd2-3cb-1fe2-435-450-438-45d-1f00-1f02-1f01-1f03-1f10-1f12-1f11-1f13
  300-1f20-1f22-1f21-1f23-1f30-1f32-1f31-1f33-1f40-1f42-1f41-1f43-1f50-1f52-1f51-1f53
  300-1f60-1f62-1f61-1f63 301-61-e1-63-107-65-e9-67-1f5-69-ed-6b-1e31-6c-13a-6d-1e3f
  301-6e-144-6f-f3-70-1e55-72-155-73-15b-75-fa-77-1e83-79-fd
  301-7a-17a-e2-1ea5-e5-1fb-e6-1fd-e7-1e09-ea-1ebf-ef-1e2f-f4-1ed1
  301-f5-1e4d-f8-1ff-fc-1d8-103-1eaf-113-1e17-14d-1e53-169-1e79-1a1-1edb
  301-1b0-1ee9-3b1-3ac-3b5-3ad-3b7-3ae-3b9-3af-3bf-3cc-3c5-3cd-3c9-3ce
  301-3ca-390-3cb-3b0-433-453-43a-45c-1f00-1f04-1f01-1f05-1f10-1f14-1f11-1f15
  301-1f20-1f24-1f21-1f25-1f30-1f34-1f31-1f35-1f40-1f44-1f41-1f45-1f50-1f54-1f51-1f55
  301-1f60-1f64-1f61-1f65 302-61-e2-63-109-65-ea-67-11d-68-125-69-ee-6a-135-6f-f4
  302-73-15d-75-fb-77-175-79-177-7a-1e91-1ea1-1ead-1eb9-1ec7-1ecd-1ed9
  303-61-e3-65-1ebd-69-129-6e-f1-6f-f5-75-169-76-1e7d-79-1ef9
  303-e2-1eab-ea-1ec5-f4-1ed7-103-1eb5-1a1-1ee1-1b0-1eef
  304-61-101-65-113-67-1e21-69-12b-6f-14d-75-16b-79-233-e4-1df
  304-e6-1e3-f5-22d-f6-22b-fc-1d6-1eb-1ed-227-1e1-22f-231-3b1-1fb1
  304-3b9-1fd1-3c5-1fe1-438-4e3-443-4ef-1e37-1e39-1e5b-1e5d
  306-61-103-65-115-67-11f-69-12d-6f-14f-75-16d-229-1e1d-3b1-1fb0
  306-3b9-1fd0-3c5-1fe0-430-4d1-435-4d7-436-4c2-438-439-443-45e-1ea1-1eb7
  307-61-227-62-1e03-63-10b-64-1e0b-65-117-66-1e1f-67-121-68-1e23
  307-6d-1e41-6e-1e45-6f-22f-70-1e57-72-1e59-73-1e61-74-1e6b-77-1e87
  307-78-1e8b-79-1e8f-7a-17c-15b-1e65-161-1e67-1e63-1e69-105d2-105c9-105da-105e4
  308-61-e4-65-eb-68-1e27-69-ef-6f-f6-74-1e97-75-fc-77-1e85
  308-78-1e8d-79-ff-f5-1e4f-16b-1e7b-3b9-3ca-3c5-3cb-430-4d3-435-451
  308-436-4dd-437-4df-438-4e5-43e-4e7-443-4f1-447-4f5-44b-4f9-44d-4ed
  308-456-457-4d9-4db-4e9-4eb
  309-61-1ea3-65-1ebb-69-1ec9-6f-1ecf-75-1ee7-79-1ef7-e2-1ea9-ea-1ec3
  309-f4-1ed5-103-1eb3-1a1-1edf-1b0-1eed 30a-61-e5-75-16f-77-1e98-79-1e99
  30b-6f-151-75-171-443-4f3 30c-61-1ce-63-10d-64-10f-65-11b-67-1e7-68-21f-69-1d0-6a-1f0
  30c-6b-1e9-6c-13e-6e-148-6f-1d2-72-159-73-161-74-165-75-1d4 30c-7a-17e-fc-1da-292-1ef
  30f-61-201-65-205-69-209-6f-20d-72-211-75-215-475-477
  311-61-203-65-207-69-20b-6f-20f-72-213-75-217
  313-3b1-1f00-3b5-1f10-3b7-1f20-3b9-1f30-3bf-1f40-3c1-1fe4-3c5-1f50-3c9-1f60
  314-3b1-1f01-3b5-1f11-3b7-1f21-3b9-1f31-3bf-1f41-3c1-1fe5-3c5-1f51-3c9-1f61 31b-6f-1a1-75-1b0
  323-61-1ea1-62-1e05-64-1e0d-65-1eb9-68-1e25-69-1ecb-6b-1e33-6c-1e37
  323-6d-1e43-6e-1e47-6f-1ecd-72-1e5b-73-1e63-74-1e6d-75-1ee5-76-1e7f
  323-77-1e89-79-1ef5-7a-1e93-1a1-1ee3-1b0-1ef1 324-75-1e73 325-61-1e01 326-73-219-74-21b
  327-63-e7-64-1e11-65-229-67-123-68-1e29-6b-137-6c-13c-6e-146 327-72-157-73-15f-74-163
  328-61-105-65-119-69-12f-6f-1eb-75-173 32d-64-1e13-65-1e19-6c-1e3d-6e-1e4b-74-1e71-75-1e77
  32e-68-1e2b 330-65-1e1b-69-1e2d-75-1e75
  331-62-1e07-64-1e0f-68-1e96-6b-1e35-6c-1e3b-6e-1e49-72-1e5f-74-1e6f 331-7a-1e95
  338-3c-226e-3d-2260-3e-226f-2190-219a-2192-219b-2194-21ae-21d0-21cd-21d2-21cf
  338-21d4-21ce-2203-2204-2208-2209-220b-220c-2223-2224-2225-2226-223c-2241-2243-2244
  338-2245-2247-2248-2249-224d-226d-2261-2262-2264-2270-2265-2271-2272-2274-2273-2275
  338-2276-2278-2277-2279-227a-2280-227b-2281-227c-22e0-227d-22e1-2282-2284-2283-2285
  338-2286-2288-2287-2289-2291-22e2-2292-22e3-22a2-22ac-22a8-22ad-22a9-22ae-22ab-22af
  338-22b2-22ea-22b3-22eb-22b4-22ec-22b5-22ed
  342-3b1-1fb6-3b7-1fc6-3b9-1fd6-3c5-1fe6-3c9-1ff6-3ca-1fd7-3cb-1fe7-1f00-1f06
  342-1f01-1f07-1f20-1f26-1f21-1f27-1f30-1f36-1f31-1f37-1f50-1f56-1f51-1f57-1f60-1f66
  342-1f61-1f67 653-627-622 654-627-623-648-624-64a-626-6c1-6c2-6d2-6d3-6d5-6c0 655-627-625
  93c-928-929-930-931-933-934 9be-9c7-9cb 9d7-9c7-9cc b3e-b47-b4b b56-b47-b48 b57-b47-b4c
  bbe-bc6-bca-bc7-bcb bd7-b92-b94-bc6-bcc c56-c46-c48 cc2-cc6-cca cd5-cbf-cc0-cc6-cc7-cca-ccb
  cd6-cc6-cc8 d3e-d46-d4a-d47-d4b d57-d46-d4c dca-dd9-dda-ddc-ddd dcf-dd9-ddc ddf-dd9-dde
  102e-1025-1026
  1b35-1b05-1b06-1b07-1b08-1b09-1b0a-1b0b-1b0c-1b0d-1b0e-1b11-1b12-1b3a-1b3b-1b3c-1b3d
  1b35-1b3e-1b40-1b3f-1b41-1b42-1b43
  3099-3046-3094-304b-304c-304d-304e-304f-3050-3051-3052-3053-3054-3055-3056-3057-3058
  3099-3059-305a-305b-305c-305d-305e-305f-3060-3061-3062-3064-3065-3066-3067-3068-3069
  3099-306f-3070-3072-3073-3075-3076-3078-3079-307b-307c-309d-309e-30a6-30f4-30ab-30ac
  3099-30ad-30ae-30af-30b0-30b1-30b2-30b3-30b4-30b5-30b6-30b7-30b8-30b9-30ba-30bb-30bc
  3099-30bd-30be-30bf-30c0-30c1-30c2-30c4-30c5-30c6-30c7-30c8-30c9-30cf-30d0-30d2-30d3
  3099-30d5-30d6-30d8-30d9-30db-30dc-30ef-30f7-30f0-30f8-30f1-30f9-30f2-30fa-30fd-30fe
  309a-306f-3071-3072-3074-3075-3077-3078-307a-307b-307d-30cf-30d1-30d2-30d4-30d5-30d7
  309a-30d8-30da-30db-30dd 110ba-11099-1109a-1109b-1109c-110a5-110ab
  11127-11131-1112e-11132-1112f 1133e-11347-1134b 11357-11347-1134c 113b8-113c2-113c7
  113bb-11384-11385 113c2-1138b-1138e-113c2-113c5 113c9-11382-11383-11390-11391-113c2-113c8
  114b0-114b9-114bc 114ba-114b9-114bb 114bd-114b9-114be 115af-115b8-115ba-115b9-115bb
  11930-11935-11938 1611e-1611e-16121 1611f-1611e-16123-16121-16126-16122-16127-16129-16124
  16120-1611e-16125-16121-16128 16129-1611e-16122 16d67-16d63-16d69-16d67-16d68-16d69-16d6a"

/-- The class of a character among the marks that may change places, or zero. -/
def markClass (c : Char) : Nat :=
  let n := c.toNat
  let class? : List Nat → Option Nat
    | [k, first] => if first = n then some k else none
    | [k, first, last] => if first ≤ n ∧ n ≤ last then some k else none
    | _ => none
  (classRows.findSome? class?).getD 0

/-- The composites of a row: the first part, the second part, and the two in one. -/
def compositesOf (second : Nat) : List Nat → List (Nat × Nat × Nat)
  | first :: whole :: rest => (first, second, whole) :: compositesOf second rest
  | _ => []

def composites : Array (Nat × Nat × Nat) :=
  compositeRows.flatMap fun
    | second :: rest => (compositesOf second rest).toArray
    | [] => #[]

/-! ## Syllables of Hangul -/

/-- The parts of a syllable: an initial and a vowel, or the two of them and a final. -/
def syllableParts? (n : Nat) : Option (Nat × Nat) :=
  if 0xac00 ≤ n ∧ n < 0xd7a4 then
    let place := n - 0xac00
    if place % 28 = 0 then some (0x1100 + place / 588, 0x1161 + place % 588 / 28)
    else some (n - place % 28, 0x11a7 + place % 28)
  else none

/-- The syllable of two parts. -/
def syllable? (first second : Nat) : Option Nat :=
  if 0x1100 ≤ first ∧ first < 0x1113 ∧ 0x1161 ≤ second ∧ second < 0x1176 then
    some (0xac00 + (first - 0x1100) * 588 + (second - 0x1161) * 28)
  else if 0xac00 ≤ first ∧ first < 0xd7a4 ∧ (first - 0xac00) % 28 = 0 ∧
      0x11a7 < second ∧ second < 0x11c3 then
    some (first + (second - 0x11a7))
  else none

/-! ## Parts and wholes -/

/-- The two parts of a composite. -/
def parts? (c : Char) : Option (Char × Char) :=
  let parts :=
    (syllableParts? c.toNat).or
      (composites.findSome? fun (first, second, whole) =>
        if whole = c.toNat then some (first, second) else none)
  parts.map fun (first, second) => (Char.ofNat first, Char.ofNat second)

/-- The composite of two parts. -/
def whole? (a b : Char) : Option Char :=
  let whole :=
    (syllable? a.toNat b.toNat).or
      (composites.findSome? fun (first, second, whole) =>
        if first = a.toNat ∧ second = b.toNat then some whole else none)
  whole.map Char.ofNat

/-- A character taken apart. The first part may have parts of its own, no more than a few
levels deep. -/
def takeApart : Nat → Char → List Char
  | 0, c => [c]
  | depth + 1, c =>
    match parts? c with
    | some (a, b) => takeApart depth a ++ [b]
    | none => [c]

/-- Puts a character behind others, which stand last first. A mark goes before the marks of
a higher class. -/
def putBehind (c : Char) : List Char → List Char
  | [] => [c]
  | d :: rest =>
    if markClass c ≠ 0 ∧ markClass c < markClass d then d :: putBehind c rest
    else c :: d :: rest

/-- A text taken apart, with its marks in order. -/
def takenApart (cs : List Char) : List Char :=
  ((cs.flatMap (takeApart 4)).foldl (fun done c => putBehind c done) []).reverse

/-! ## Composing -/

/-- What is composed so far: what is done, last first, the letter that may still take marks,
and the marks that stand behind it, last first. -/
structure Composing where
  done : List Char
  letter : Option Char
  marks : List Char

namespace Composing

/-- All that is composed so far, last first. -/
def all (s : Composing) : List Char := s.marks ++ s.letter.toList ++ s.done

/-- Takes one character in. It joins the letter if no mark between them is in its way. -/
def step (s : Composing) (c : Char) : Composing :=
  let isFree :=
    match s.marks with
    | [] => true
    | mark :: _ => markClass mark < markClass c
  match (s.letter.filter fun _ => isFree).bind (whole? · c) with
  | some letter => { s with letter := some letter }
  | none =>
    if markClass c = 0 then ⟨s.all, some c, []⟩
    else { s with marks := c :: s.marks }

end Composing

/-- The composed form of a text. -/
def composed (cs : List Char) : List Char :=
  ((takenApart cs).foldl Composing.step ⟨[], none, []⟩).all.reverse

end ReviewDesk.Domain
