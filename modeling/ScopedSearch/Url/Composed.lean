import ScopedSearch.Url.Mark

/-!
# Composed names

Some characters with a mark may be written in two ways: as one character, or as a plain one with the
mark after it.  In a composed text everything is written as one character that can be, and marks
stand in the order of their classes.  The tables hold the characters that may stand in host names.
-/

namespace ScopedSearch

namespace Url

/-- Marks with the characters that each makes another one with: the plain one and the whole. -/
def wholes : List (Nat × List (Nat × Nat)) := [
  (768, [(97, 224), (101, 232), (105, 236), (110, 505), (111, 242), (117, 249), (119, 7809),
    (121, 7923), (226, 7847), (234, 7873), (244, 7891), (252, 476), (259, 7857), (275, 7701),
    (333, 7761), (417, 7901), (432, 7915), (945, 8048), (949, 8050), (951, 8052), (953, 8054),
    (959, 8056), (965, 8058), (969, 8060), (970, 8146), (971, 8162), (1077, 1104), (1080, 1117),
    (7936, 7938), (7937, 7939), (7952, 7954), (7953, 7955), (7968, 7970), (7969, 7971),
    (7984, 7986), (7985, 7987), (8000, 8002), (8001, 8003), (8016, 8018), (8017, 8019),
    (8032, 8034), (8033, 8035)]),
  (769, [(97, 225), (99, 263), (101, 233), (103, 501), (105, 237), (107, 7729), (108, 314),
    (109, 7743), (110, 324), (111, 243), (112, 7765), (114, 341), (115, 347), (117, 250),
    (119, 7811), (121, 253), (122, 378), (226, 7845), (229, 507), (230, 509), (231, 7689),
    (234, 7871), (239, 7727), (244, 7889), (245, 7757), (248, 511), (252, 472), (259, 7855),
    (275, 7703), (333, 7763), (361, 7801), (417, 7899), (432, 7913), (945, 940), (949, 941),
    (951, 942), (953, 943), (959, 972), (965, 973), (969, 974), (970, 912), (971, 944),
    (1075, 1107), (1082, 1116), (7936, 7940), (7937, 7941), (7952, 7956), (7953, 7957),
    (7968, 7972), (7969, 7973), (7984, 7988), (7985, 7989), (8000, 8004), (8001, 8005),
    (8016, 8020), (8017, 8021), (8032, 8036), (8033, 8037)]),
  (770, [(97, 226), (99, 265), (101, 234), (103, 285), (104, 293), (105, 238), (106, 309),
    (111, 244), (115, 349), (117, 251), (119, 373), (121, 375), (122, 7825), (7841, 7853),
    (7865, 7879), (7885, 7897)]),
  (771, [(97, 227), (101, 7869), (105, 297), (110, 241), (111, 245), (117, 361), (118, 7805),
    (121, 7929), (226, 7851), (234, 7877), (244, 7895), (259, 7861), (417, 7905), (432, 7919)]),
  (772, [(97, 257), (101, 275), (103, 7713), (105, 299), (111, 333), (117, 363), (121, 563),
    (228, 479), (230, 483), (245, 557), (246, 555), (252, 470), (491, 493), (551, 481), (559, 561),
    (945, 8113), (953, 8145), (965, 8161), (1080, 1251), (1091, 1263), (7735, 7737), (7771, 7773)]),
  (774, [(97, 259), (101, 277), (103, 287), (105, 301), (111, 335), (117, 365), (553, 7709),
    (945, 8112), (953, 8144), (965, 8160), (1072, 1233), (1077, 1239), (1078, 1218), (1080, 1081),
    (1091, 1118), (7841, 7863)]),
  (775, [(97, 551), (98, 7683), (99, 267), (100, 7691), (101, 279), (102, 7711), (103, 289),
    (104, 7715), (109, 7745), (110, 7749), (111, 559), (112, 7767), (114, 7769), (115, 7777),
    (116, 7787), (119, 7815), (120, 7819), (121, 7823), (122, 380), (347, 7781), (353, 7783),
    (7779, 7785)]),
  (776, [(97, 228), (101, 235), (104, 7719), (105, 239), (111, 246), (116, 7831), (117, 252),
    (119, 7813), (120, 7821), (121, 255), (245, 7759), (363, 7803), (953, 970), (965, 971),
    (1072, 1235), (1077, 1105), (1078, 1245), (1079, 1247), (1080, 1253), (1086, 1255),
    (1091, 1265), (1095, 1269), (1099, 1273), (1101, 1261), (1110, 1111), (1241, 1243),
    (1257, 1259)]),
  (777, [(97, 7843), (101, 7867), (105, 7881), (111, 7887), (117, 7911), (121, 7927), (226, 7849),
    (234, 7875), (244, 7893), (259, 7859), (417, 7903), (432, 7917)]),
  (778, [(97, 229), (117, 367), (119, 7832), (121, 7833)]),
  (779, [(111, 337), (117, 369), (1091, 1267)]),
  (780, [(97, 462), (99, 269), (100, 271), (101, 283), (103, 487), (104, 543), (105, 464),
    (106, 496), (107, 489), (108, 318), (110, 328), (111, 466), (114, 345), (115, 353), (116, 357),
    (117, 468), (122, 382), (252, 474), (658, 495)]),
  (783, [(97, 513), (101, 517), (105, 521), (111, 525), (114, 529), (117, 533), (1141, 1143)]),
  (785, [(97, 515), (101, 519), (105, 523), (111, 527), (114, 531), (117, 535)]),
  (787, [(945, 7936), (949, 7952), (951, 7968), (953, 7984), (959, 8000), (961, 8164), (965, 8016),
    (969, 8032)]),
  (788, [(945, 7937), (949, 7953), (951, 7969), (953, 7985), (959, 8001), (961, 8165), (965, 8017),
    (969, 8033)]), (795, [(111, 417), (117, 432)]),
  (803, [(97, 7841), (98, 7685), (100, 7693), (101, 7865), (104, 7717), (105, 7883), (107, 7731),
    (108, 7735), (109, 7747), (110, 7751), (111, 7885), (114, 7771), (115, 7779), (116, 7789),
    (117, 7909), (118, 7807), (119, 7817), (121, 7925), (122, 7827), (417, 7907), (432, 7921)]),
  (804, [(117, 7795)]), (805, [(97, 7681)]), (806, [(115, 537), (116, 539)]),
  (807, [(99, 231), (100, 7697), (101, 553), (103, 291), (104, 7721), (107, 311), (108, 316),
    (110, 326), (114, 343), (115, 351), (116, 355)]),
  (808, [(97, 261), (101, 281), (105, 303), (111, 491), (117, 371)]),
  (813, [(100, 7699), (101, 7705), (108, 7741), (110, 7755), (116, 7793), (117, 7799)]),
  (814, [(104, 7723)]), (816, [(101, 7707), (105, 7725), (117, 7797)]),
  (817, [(98, 7687), (100, 7695), (104, 7830), (107, 7733), (108, 7739), (110, 7753), (114, 7775),
    (116, 7791), (122, 7829)]),
  (834, [(945, 8118), (951, 8134), (953, 8150), (965, 8166), (969, 8182), (970, 8151), (971, 8167),
    (7936, 7942), (7937, 7943), (7968, 7974), (7969, 7975), (7984, 7990), (7985, 7991),
    (8016, 8022), (8017, 8023), (8032, 8038), (8033, 8039)]), (1619, [(1575, 1570)]),
  (1620, [(1575, 1571), (1608, 1572), (1610, 1574), (1729, 1730), (1746, 1747), (1749, 1728)]),
  (1621, [(1575, 1573)]), (2364, [(2344, 2345), (2352, 2353), (2355, 2356)]),
  (2494, [(2503, 2507)]), (2519, [(2503, 2508)]), (2878, [(2887, 2891)]), (2902, [(2887, 2888)]),
  (2903, [(2887, 2892)]), (3006, [(3014, 3018), (3015, 3019)]),
  (3031, [(2962, 2964), (3014, 3020)]), (3158, [(3142, 3144)]), (3266, [(3270, 3274)]),
  (3285, [(3263, 3264), (3270, 3271), (3274, 3275)]), (3286, [(3270, 3272)]),
  (3390, [(3398, 3402), (3399, 3403)]), (3415, [(3398, 3404)]),
  (3530, [(3545, 3546), (3548, 3549)]), (3535, [(3545, 3548)]), (3551, [(3545, 3550)]),
  (4142, [(4133, 4134)]),
  (6965, [(6917, 6918), (6919, 6920), (6921, 6922), (6923, 6924), (6925, 6926), (6929, 6930),
    (6970, 6971), (6972, 6973), (6974, 6976), (6975, 6977), (6978, 6979)]),
  (12441, [(12358, 12436), (12363, 12364), (12365, 12366), (12367, 12368), (12369, 12370),
    (12371, 12372), (12373, 12374), (12375, 12376), (12377, 12378), (12379, 12380), (12381, 12382),
    (12383, 12384), (12385, 12386), (12388, 12389), (12390, 12391), (12392, 12393), (12399, 12400),
    (12402, 12403), (12405, 12406), (12408, 12409), (12411, 12412), (12445, 12446), (12454, 12532),
    (12459, 12460), (12461, 12462), (12463, 12464), (12465, 12466), (12467, 12468), (12469, 12470),
    (12471, 12472), (12473, 12474), (12475, 12476), (12477, 12478), (12479, 12480), (12481, 12482),
    (12484, 12485), (12486, 12487), (12488, 12489), (12495, 12496), (12498, 12499), (12501, 12502),
    (12504, 12505), (12507, 12508), (12527, 12535), (12528, 12536), (12529, 12537), (12530, 12538),
    (12541, 12542)]),
  (12442, [(12399, 12401), (12402, 12404), (12405, 12407), (12408, 12410), (12411, 12413),
    (12495, 12497), (12498, 12500), (12501, 12503), (12504, 12506), (12507, 12509)]),
  (69818, [(69785, 69786), (69787, 69788), (69797, 69803)]),
  (69927, [(69937, 69934), (69938, 69935)]), (70462, [(70471, 70475)]), (70487, [(70471, 70476)]),
  (70832, [(70841, 70844)]), (70842, [(70841, 70843)]), (70845, [(70841, 70846)]),
  (71087, [(71096, 71098), (71097, 71099)]), (71984, [(71989, 71992)])]

/-- The character that a character and a mark after it make, if they make one. -/
def whole? (base mark : Char) : Option Char :=
  (((wholes.lookup mark.toNat).getD []).lookup base.toNat).map Char.ofNat

/-- The base and the mark that a character is made of, if it is made of two. -/
def parts? (c : Char) : Option (Char × Char) :=
  wholes.findSome? fun (mark, made) =>
    (made.find? (·.2 == c.toNat)).map fun (base, _) => (Char.ofNat base, Char.ofNat mark)

/-! ### Taking apart -/

/-- How many marks a character may be made with. -/
def partsLimit : Nat := 3

/-- A character as a plain one with its marks, so many at the most. -/
def takeApart : Nat → Char → List Char
  | 0, c => [c]
  | n + 1, c =>
    match parts? c with
    | some (base, mark) => takeApart n base ++ [mark]
    | none => [c]

/-- Puts a character before others, behind the marks of lower classes that follow. -/
def insertMark (c : Char) : List Char → List Char
  | [] => [c]
  | d :: ds =>
    if 0 < markClass d && markClass d < markClass c then d :: insertMark c ds else c :: d :: ds

/-- A text with its marks in the order of their classes; marks of one class keep theirs. -/
def inOrder : List Char → List Char
  | [] => []
  | c :: cs => insertMark c (inOrder cs)

/-- A text without composed characters. -/
def decompose (cs : List Char) : List Char := inOrder (cs.flatMap (takeApart partsLimit))

/-! ### Putting together -/

/-- Whether a character may join the one that some marks, the last first, stand behind: no mark
between them may be of its class or a higher one. -/
def reaches (marks : List Char) (c : Char) : Bool :=
  marks.head?.all fun m => markClass m < markClass c

/-- Puts together what can be, given a character and the marks behind it, the last first. -/
def joinOnto (base : Char) (marks : List Char) : List Char → List Char
  | [] => base :: marks.reverse
  | c :: cs =>
    match if reaches marks c then whole? base c else none with
    | some made => joinOnto made marks cs
    | none =>
      if markClass c == 0 then base :: marks.reverse ++ joinOnto c [] cs
      else joinOnto base (c :: marks) cs

/-- A text in order with everything put together that can be. -/
def putTogether : List Char → List Char
  | [] => []
  | c :: cs => joinOnto c [] cs

def isComposed (cs : List Char) : Bool := putTogether (decompose cs) == cs

end Url

end ScopedSearch
