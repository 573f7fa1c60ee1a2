import Curation.Text.Case
import Curation.Text.Classes

/-!
The general categories and the scripts of Unicode characters, by which a pattern may name a class,
and the characters that are the same but for case, by simple case folding: each orbit lists
characters that a pattern without regard to case takes for one another.
-/
namespace Curation.Pattern

/-- The first code points of runs, each with the property that holds up to the next one; a dash
stands where none does. -/
abbrev Runs := List (Nat × String)

/-- An entry is a hexadecimal code point with the property right behind it. -/
def runs (text : String) : Runs :=
  (Text.words text.toList).map fun entry =>
    let isHex (c : Char) : Bool := ('0' ≤ c && c ≤ '9') || ('a' ≤ c && c ≤ 'f')
    (Ranges.hexNumber (entry.takeWhile isHex), String.ofList (entry.dropWhile isHex))

/-- The ranges of the runs whose property is wanted. -/
def select (wanted : String → Bool) : Runs → List (Nat × Nat)
  | [] => []
  | (first, property) :: rest =>
    let last := match rest with
      | (next, _) :: _ => next - 1
      | [] => 0x10ffff
    if wanted property then (first, last) :: select wanted rest else select wanted rest

/-- The general category of every code point. -/
def categories : Runs := runs
  "0Cc 20Zs 21Po 24Sc 25Po 28Ps 29Pe 2aPo 2bSm 2cPo 2dPd 2ePo 30Nd 3aPo 3cSm 3fPo 41Lu 5bPs
  5cPo 5dPe 5eSk 5fPc 60Sk 61Ll 7bPs 7cSm 7dPe 7eSm 7fCc a0Zs a1Po a2Sc a6So a7Po a8Sk a9So
  aaLo abPi acSm adCf aeSo afSk b0So b1Sm b2No b4Sk b5Ll b6Po b8Sk b9No baLo bbPf bcNo bfPo
  c0Lu d7Sm d8Lu dfLl f7Sm f8Ll 100Lu 101Ll 102Lu 103Ll 104Lu 105Ll 106Lu 107Ll 108Lu 109Ll
  10aLu 10bLl 10cLu 10dLl 10eLu 10fLl 110Lu 111Ll 112Lu 113Ll 114Lu 115Ll 116Lu 117Ll 118Lu
  119Ll 11aLu 11bLl 11cLu 11dLl 11eLu 11fLl 120Lu 121Ll 122Lu 123Ll 124Lu 125Ll 126Lu 127Ll
  128Lu 129Ll 12aLu 12bLl 12cLu 12dLl 12eLu 12fLl 130Lu 131Ll 132Lu 133Ll 134Lu 135Ll 136Lu
  137Ll 139Lu 13aLl 13bLu 13cLl 13dLu 13eLl 13fLu 140Ll 141Lu 142Ll 143Lu 144Ll 145Lu 146Ll
  147Lu 148Ll 14aLu 14bLl 14cLu 14dLl 14eLu 14fLl 150Lu 151Ll 152Lu 153Ll 154Lu 155Ll 156Lu
  157Ll 158Lu 159Ll 15aLu 15bLl 15cLu 15dLl 15eLu 15fLl 160Lu 161Ll 162Lu 163Ll 164Lu 165Ll
  166Lu 167Ll 168Lu 169Ll 16aLu 16bLl 16cLu 16dLl 16eLu 16fLl 170Lu 171Ll 172Lu 173Ll 174Lu
  175Ll 176Lu 177Ll 178Lu 17aLl 17bLu 17cLl 17dLu 17eLl 181Lu 183Ll 184Lu 185Ll 186Lu 188Ll
  189Lu 18cLl 18eLu 192Ll 193Lu 195Ll 196Lu 199Ll 19cLu 19eLl 19fLu 1a1Ll 1a2Lu 1a3Ll 1a4Lu
  1a5Ll 1a6Lu 1a8Ll 1a9Lu 1aaLl 1acLu 1adLl 1aeLu 1b0Ll 1b1Lu 1b4Ll 1b5Lu 1b6Ll 1b7Lu 1b9Ll
  1bbLo 1bcLu 1bdLl 1c0Lo 1c4Lu 1c5Lt 1c6Ll 1c7Lu 1c8Lt 1c9Ll 1caLu 1cbLt 1ccLl 1cdLu 1ceLl
  1cfLu 1d0Ll 1d1Lu 1d2Ll 1d3Lu 1d4Ll 1d5Lu 1d6Ll 1d7Lu 1d8Ll 1d9Lu 1daLl 1dbLu 1dcLl 1deLu
  1dfLl 1e0Lu 1e1Ll 1e2Lu 1e3Ll 1e4Lu 1e5Ll 1e6Lu 1e7Ll 1e8Lu 1e9Ll 1eaLu 1ebLl 1ecLu 1edLl
  1eeLu 1efLl 1f1Lu 1f2Lt 1f3Ll 1f4Lu 1f5Ll 1f6Lu 1f9Ll 1faLu 1fbLl 1fcLu 1fdLl 1feLu 1ffLl
  200Lu 201Ll 202Lu 203Ll 204Lu 205Ll 206Lu 207Ll 208Lu 209Ll 20aLu 20bLl 20cLu 20dLl 20eLu
  20fLl 210Lu 211Ll 212Lu 213Ll 214Lu 215Ll 216Lu 217Ll 218Lu 219Ll 21aLu 21bLl 21cLu 21dLl
  21eLu 21fLl 220Lu 221Ll 222Lu 223Ll 224Lu 225Ll 226Lu 227Ll 228Lu 229Ll 22aLu 22bLl 22cLu
  22dLl 22eLu 22fLl 230Lu 231Ll 232Lu 233Ll 23aLu 23cLl 23dLu 23fLl 241Lu 242Ll 243Lu 247Ll
  248Lu 249Ll 24aLu 24bLl 24cLu 24dLl 24eLu 24fLl 294Lo 295Ll 2b0Lm 2c2Sk 2c6Lm 2d2Sk 2e0Lm
  2e5Sk 2ecLm 2edSk 2eeLm 2efSk 300Mn 370Lu 371Ll 372Lu 373Ll 374Lm 375Sk 376Lu 377Ll 378-
  37aLm 37bLl 37ePo 37fLu 380- 384Sk 386Lu 387Po 388Lu 38b- 38cLu 38d- 38eLu 390Ll 391Lu 3a2-
  3a3Lu 3acLl 3cfLu 3d0Ll 3d2Lu 3d5Ll 3d8Lu 3d9Ll 3daLu 3dbLl 3dcLu 3ddLl 3deLu 3dfLl 3e0Lu
  3e1Ll 3e2Lu 3e3Ll 3e4Lu 3e5Ll 3e6Lu 3e7Ll 3e8Lu 3e9Ll 3eaLu 3ebLl 3ecLu 3edLl 3eeLu 3efLl
  3f4Lu 3f5Ll 3f6Sm 3f7Lu 3f8Ll 3f9Lu 3fbLl 3fdLu 430Ll 460Lu 461Ll 462Lu 463Ll 464Lu 465Ll
  466Lu 467Ll 468Lu 469Ll 46aLu 46bLl 46cLu 46dLl 46eLu 46fLl 470Lu 471Ll 472Lu 473Ll 474Lu
  475Ll 476Lu 477Ll 478Lu 479Ll 47aLu 47bLl 47cLu 47dLl 47eLu 47fLl 480Lu 481Ll 482So 483Mn
  488Me 48aLu 48bLl 48cLu 48dLl 48eLu 48fLl 490Lu 491Ll 492Lu 493Ll 494Lu 495Ll 496Lu 497Ll
  498Lu 499Ll 49aLu 49bLl 49cLu 49dLl 49eLu 49fLl 4a0Lu 4a1Ll 4a2Lu 4a3Ll 4a4Lu 4a5Ll 4a6Lu
  4a7Ll 4a8Lu 4a9Ll 4aaLu 4abLl 4acLu 4adLl 4aeLu 4afLl 4b0Lu 4b1Ll 4b2Lu 4b3Ll 4b4Lu 4b5Ll
  4b6Lu 4b7Ll 4b8Lu 4b9Ll 4baLu 4bbLl 4bcLu 4bdLl 4beLu 4bfLl 4c0Lu 4c2Ll 4c3Lu 4c4Ll 4c5Lu
  4c6Ll 4c7Lu 4c8Ll 4c9Lu 4caLl 4cbLu 4ccLl 4cdLu 4ceLl 4d0Lu 4d1Ll 4d2Lu 4d3Ll 4d4Lu 4d5Ll
  4d6Lu 4d7Ll 4d8Lu 4d9Ll 4daLu 4dbLl 4dcLu 4ddLl 4deLu 4dfLl 4e0Lu 4e1Ll 4e2Lu 4e3Ll 4e4Lu
  4e5Ll 4e6Lu 4e7Ll 4e8Lu 4e9Ll 4eaLu 4ebLl 4ecLu 4edLl 4eeLu 4efLl 4f0Lu 4f1Ll 4f2Lu 4f3Ll
  4f4Lu 4f5Ll 4f6Lu 4f7Ll 4f8Lu 4f9Ll 4faLu 4fbLl 4fcLu 4fdLl 4feLu 4ffLl 500Lu 501Ll 502Lu
  503Ll 504Lu 505Ll 506Lu 507Ll 508Lu 509Ll 50aLu 50bLl 50cLu 50dLl 50eLu 50fLl 510Lu 511Ll
  512Lu 513Ll 514Lu 515Ll 516Lu 517Ll 518Lu 519Ll 51aLu 51bLl 51cLu 51dLl 51eLu 51fLl 520Lu
  521Ll 522Lu 523Ll 524Lu 525Ll 526Lu 527Ll 528Lu 529Ll 52aLu 52bLl 52cLu 52dLl 52eLu 52fLl
  530- 531Lu 557- 559Lm 55aPo 560Ll 589Po 58aPd 58b- 58dSo 58fSc 590- 591Mn 5bePd 5bfMn 5c0Po
  5c1Mn 5c3Po 5c4Mn 5c6Po 5c7Mn 5c8- 5d0Lo 5eb- 5efLo 5f3Po 5f5- 600Cf 606Sm 609Po 60bSc 60cPo
  60eSo 610Mn 61bPo 61cCf 61dPo 620Lo 640Lm 641Lo 64bMn 660Nd 66aPo 66eLo 670Mn 671Lo 6d4Po
  6d5Lo 6d6Mn 6ddCf 6deSo 6dfMn 6e5Lm 6e7Mn 6e9So 6eaMn 6eeLo 6f0Nd 6faLo 6fdSo 6ffLo 700Po
  70e- 70fCf 710Lo 711Mn 712Lo 730Mn 74b- 74dLo 7a6Mn 7b1Lo 7b2- 7c0Nd 7caLo 7ebMn 7f4Lm 7f6So
  7f7Po 7faLm 7fb- 7fdMn 7feSc 800Lo 816Mn 81aLm 81bMn 824Lm 825Mn 828Lm 829Mn 82e- 830Po 83f-
  840Lo 859Mn 85c- 85ePo 85f- 860Lo 86b- 870Lo 888Sk 889Lo 88f- 890Cf 892- 898Mn 8a0Lo 8c9Lm
  8caMn 8e2Cf 8e3Mn 903Mc 904Lo 93aMn 93bMc 93cMn 93dLo 93eMc 941Mn 949Mc 94dMn 94eMc 950Lo
  951Mn 958Lo 962Mn 964Po 966Nd 970Po 971Lm 972Lo 981Mn 982Mc 984- 985Lo 98d- 98fLo 991- 993Lo
  9a9- 9aaLo 9b1- 9b2Lo 9b3- 9b6Lo 9ba- 9bcMn 9bdLo 9beMc 9c1Mn 9c5- 9c7Mc 9c9- 9cbMc 9cdMn
  9ceLo 9cf- 9d7Mc 9d8- 9dcLo 9de- 9dfLo 9e2Mn 9e4- 9e6Nd 9f0Lo 9f2Sc 9f4No 9faSo 9fbSc 9fcLo
  9fdPo 9feMn 9ff- a01Mn a03Mc a04- a05Lo a0b- a0fLo a11- a13Lo a29- a2aLo a31- a32Lo a34-
  a35Lo a37- a38Lo a3a- a3cMn a3d- a3eMc a41Mn a43- a47Mn a49- a4bMn a4e- a51Mn a52- a59Lo
  a5d- a5eLo a5f- a66Nd a70Mn a72Lo a75Mn a76Po a77- a81Mn a83Mc a84- a85Lo a8e- a8fLo a92-
  a93Lo aa9- aaaLo ab1- ab2Lo ab4- ab5Lo aba- abcMn abdLo abeMc ac1Mn ac6- ac7Mn ac9Mc aca-
  acbMc acdMn ace- ad0Lo ad1- ae0Lo ae2Mn ae4- ae6Nd af0Po af1Sc af2- af9Lo afaMn b00- b01Mn
  b02Mc b04- b05Lo b0d- b0fLo b11- b13Lo b29- b2aLo b31- b32Lo b34- b35Lo b3a- b3cMn b3dLo
  b3eMc b3fMn b40Mc b41Mn b45- b47Mc b49- b4bMc b4dMn b4e- b55Mn b57Mc b58- b5cLo b5e- b5fLo
  b62Mn b64- b66Nd b70So b71Lo b72No b78- b82Mn b83Lo b84- b85Lo b8b- b8eLo b91- b92Lo b96-
  b99Lo b9b- b9cLo b9d- b9eLo ba0- ba3Lo ba5- ba8Lo bab- baeLo bba- bbeMc bc0Mn bc1Mc bc3-
  bc6Mc bc9- bcaMc bcdMn bce- bd0Lo bd1- bd7Mc bd8- be6Nd bf0No bf3So bf9Sc bfaSo bfb- c00Mn
  c01Mc c04Mn c05Lo c0d- c0eLo c11- c12Lo c29- c2aLo c3a- c3cMn c3dLo c3eMn c41Mc c45- c46Mn
  c49- c4aMn c4e- c55Mn c57- c58Lo c5b- c5dLo c5e- c60Lo c62Mn c64- c66Nd c70- c77Po c78No
  c7fSo c80Lo c81Mn c82Mc c84Po c85Lo c8d- c8eLo c91- c92Lo ca9- caaLo cb4- cb5Lo cba- cbcMn
  cbdLo cbeMc cbfMn cc0Mc cc5- cc6Mn cc7Mc cc9- ccaMc cccMn cce- cd5Mc cd7- cddLo cdf- ce0Lo
  ce2Mn ce4- ce6Nd cf0- cf1Lo cf3Mc cf4- d00Mn d02Mc d04Lo d0d- d0eLo d11- d12Lo d3bMn d3dLo
  d3eMc d41Mn d45- d46Mc d49- d4aMc d4dMn d4eLo d4fSo d50- d54Lo d57Mc d58No d5fLo d62Mn d64-
  d66Nd d70No d79So d7aLo d80- d81Mn d82Mc d84- d85Lo d97- d9aLo db2- db3Lo dbc- dbdLo dbe-
  dc0Lo dc7- dcaMn dcb- dcfMc dd2Mn dd5- dd6Mn dd7- dd8Mc de0- de6Nd df0- df2Mc df4Po df5-
  e01Lo e31Mn e32Lo e34Mn e3b- e3fSc e40Lo e46Lm e47Mn e4fPo e50Nd e5aPo e5c- e81Lo e83- e84Lo
  e85- e86Lo e8b- e8cLo ea4- ea5Lo ea6- ea7Lo eb1Mn eb2Lo eb4Mn ebdLo ebe- ec0Lo ec5- ec6Lm
  ec7- ec8Mn ecf- ed0Nd eda- edcLo ee0- f00Lo f01So f04Po f13So f14Po f15So f18Mn f1aSo f20Nd
  f2aNo f34So f35Mn f36So f37Mn f38So f39Mn f3aPs f3bPe f3cPs f3dPe f3eMc f40Lo f48- f49Lo
  f6d- f71Mn f7fMc f80Mn f85Po f86Mn f88Lo f8dMn f98- f99Mn fbd- fbeSo fc6Mn fc7So fcd- fceSo
  fd0Po fd5So fd9Po fdb- 1000Lo 102bMc 102dMn 1031Mc 1032Mn 1038Mc 1039Mn 103bMc 103dMn 103fLo
  1040Nd 104aPo 1050Lo 1056Mc 1058Mn 105aLo 105eMn 1061Lo 1062Mc 1065Lo 1067Mc 106eLo 1071Mn
  1075Lo 1082Mn 1083Mc 1085Mn 1087Mc 108dMn 108eLo 108fMc 1090Nd 109aMc 109dMn 109eSo 10a0Lu
  10c6- 10c7Lu 10c8- 10cdLu 10ce- 10d0Ll 10fbPo 10fcLm 10fdLl 1100Lo 1249- 124aLo 124e- 1250Lo
  1257- 1258Lo 1259- 125aLo 125e- 1260Lo 1289- 128aLo 128e- 1290Lo 12b1- 12b2Lo 12b6- 12b8Lo
  12bf- 12c0Lo 12c1- 12c2Lo 12c6- 12c8Lo 12d7- 12d8Lo 1311- 1312Lo 1316- 1318Lo 135b- 135dMn
  1360Po 1369No 137d- 1380Lo 1390So 139a- 13a0Lu 13f6- 13f8Ll 13fe- 1400Pd 1401Lo 166dSo
  166ePo 166fLo 1680Zs 1681Lo 169bPs 169cPe 169d- 16a0Lo 16ebPo 16eeNl 16f1Lo 16f9- 1700Lo
  1712Mn 1715Mc 1716- 171fLo 1732Mn 1734Mc 1735Po 1737- 1740Lo 1752Mn 1754- 1760Lo 176d-
  176eLo 1771- 1772Mn 1774- 1780Lo 17b4Mn 17b6Mc 17b7Mn 17beMc 17c6Mn 17c7Mc 17c9Mn 17d4Po
  17d7Lm 17d8Po 17dbSc 17dcLo 17ddMn 17de- 17e0Nd 17ea- 17f0No 17fa- 1800Po 1806Pd 1807Po
  180bMn 180eCf 180fMn 1810Nd 181a- 1820Lo 1843Lm 1844Lo 1879- 1880Lo 1885Mn 1887Lo 18a9Mn
  18aaLo 18ab- 18b0Lo 18f6- 1900Lo 191f- 1920Mn 1923Mc 1927Mn 1929Mc 192c- 1930Mc 1932Mn
  1933Mc 1939Mn 193c- 1940So 1941- 1944Po 1946Nd 1950Lo 196e- 1970Lo 1975- 1980Lo 19ac- 19b0Lo
  19ca- 19d0Nd 19daNo 19db- 19deSo 1a00Lo 1a17Mn 1a19Mc 1a1bMn 1a1c- 1a1ePo 1a20Lo 1a55Mc
  1a56Mn 1a57Mc 1a58Mn 1a5f- 1a60Mn 1a61Mc 1a62Mn 1a63Mc 1a65Mn 1a6dMc 1a73Mn 1a7d- 1a7fMn
  1a80Nd 1a8a- 1a90Nd 1a9a- 1aa0Po 1aa7Lm 1aa8Po 1aae- 1ab0Mn 1abeMe 1abfMn 1acf- 1b00Mn
  1b04Mc 1b05Lo 1b34Mn 1b35Mc 1b36Mn 1b3bMc 1b3cMn 1b3dMc 1b42Mn 1b43Mc 1b45Lo 1b4d- 1b50Nd
  1b5aPo 1b61So 1b6bMn 1b74So 1b7dPo 1b7f- 1b80Mn 1b82Mc 1b83Lo 1ba1Mc 1ba2Mn 1ba6Mc 1ba8Mn
  1baaMc 1babMn 1baeLo 1bb0Nd 1bbaLo 1be6Mn 1be7Mc 1be8Mn 1beaMc 1bedMn 1beeMc 1befMn 1bf2Mc
  1bf4- 1bfcPo 1c00Lo 1c24Mc 1c2cMn 1c34Mc 1c36Mn 1c38- 1c3bPo 1c40Nd 1c4a- 1c4dLo 1c50Nd
  1c5aLo 1c78Lm 1c7ePo 1c80Ll 1c89- 1c90Lu 1cbb- 1cbdLu 1cc0Po 1cc8- 1cd0Mn 1cd3Po 1cd4Mn
  1ce1Mc 1ce2Mn 1ce9Lo 1cedMn 1ceeLo 1cf4Mn 1cf5Lo 1cf7Mc 1cf8Mn 1cfaLo 1cfb- 1d00Ll 1d2cLm
  1d6bLl 1d78Lm 1d79Ll 1d9bLm 1dc0Mn 1e00Lu 1e01Ll 1e02Lu 1e03Ll 1e04Lu 1e05Ll 1e06Lu 1e07Ll
  1e08Lu 1e09Ll 1e0aLu 1e0bLl 1e0cLu 1e0dLl 1e0eLu 1e0fLl 1e10Lu 1e11Ll 1e12Lu 1e13Ll 1e14Lu
  1e15Ll 1e16Lu 1e17Ll 1e18Lu 1e19Ll 1e1aLu 1e1bLl 1e1cLu 1e1dLl 1e1eLu 1e1fLl 1e20Lu 1e21Ll
  1e22Lu 1e23Ll 1e24Lu 1e25Ll 1e26Lu 1e27Ll 1e28Lu 1e29Ll 1e2aLu 1e2bLl 1e2cLu 1e2dLl 1e2eLu
  1e2fLl 1e30Lu 1e31Ll 1e32Lu 1e33Ll 1e34Lu 1e35Ll 1e36Lu 1e37Ll 1e38Lu 1e39Ll 1e3aLu 1e3bLl
  1e3cLu 1e3dLl 1e3eLu 1e3fLl 1e40Lu 1e41Ll 1e42Lu 1e43Ll 1e44Lu 1e45Ll 1e46Lu 1e47Ll 1e48Lu
  1e49Ll 1e4aLu 1e4bLl 1e4cLu 1e4dLl 1e4eLu 1e4fLl 1e50Lu 1e51Ll 1e52Lu 1e53Ll 1e54Lu 1e55Ll
  1e56Lu 1e57Ll 1e58Lu 1e59Ll 1e5aLu 1e5bLl 1e5cLu 1e5dLl 1e5eLu 1e5fLl 1e60Lu 1e61Ll 1e62Lu
  1e63Ll 1e64Lu 1e65Ll 1e66Lu 1e67Ll 1e68Lu 1e69Ll 1e6aLu 1e6bLl 1e6cLu 1e6dLl 1e6eLu 1e6fLl
  1e70Lu 1e71Ll 1e72Lu 1e73Ll 1e74Lu 1e75Ll 1e76Lu 1e77Ll 1e78Lu 1e79Ll 1e7aLu 1e7bLl 1e7cLu
  1e7dLl 1e7eLu 1e7fLl 1e80Lu 1e81Ll 1e82Lu 1e83Ll 1e84Lu 1e85Ll 1e86Lu 1e87Ll 1e88Lu 1e89Ll
  1e8aLu 1e8bLl 1e8cLu 1e8dLl 1e8eLu 1e8fLl 1e90Lu 1e91Ll 1e92Lu 1e93Ll 1e94Lu 1e95Ll 1e9eLu
  1e9fLl 1ea0Lu 1ea1Ll 1ea2Lu 1ea3Ll 1ea4Lu 1ea5Ll 1ea6Lu 1ea7Ll 1ea8Lu 1ea9Ll 1eaaLu 1eabLl
  1eacLu 1eadLl 1eaeLu 1eafLl 1eb0Lu 1eb1Ll 1eb2Lu 1eb3Ll 1eb4Lu 1eb5Ll 1eb6Lu 1eb7Ll 1eb8Lu
  1eb9Ll 1ebaLu 1ebbLl 1ebcLu 1ebdLl 1ebeLu 1ebfLl 1ec0Lu 1ec1Ll 1ec2Lu 1ec3Ll 1ec4Lu 1ec5Ll
  1ec6Lu 1ec7Ll 1ec8Lu 1ec9Ll 1ecaLu 1ecbLl 1eccLu 1ecdLl 1eceLu 1ecfLl 1ed0Lu 1ed1Ll 1ed2Lu
  1ed3Ll 1ed4Lu 1ed5Ll 1ed6Lu 1ed7Ll 1ed8Lu 1ed9Ll 1edaLu 1edbLl 1edcLu 1eddLl 1edeLu 1edfLl
  1ee0Lu 1ee1Ll 1ee2Lu 1ee3Ll 1ee4Lu 1ee5Ll 1ee6Lu 1ee7Ll 1ee8Lu 1ee9Ll 1eeaLu 1eebLl 1eecLu
  1eedLl 1eeeLu 1eefLl 1ef0Lu 1ef1Ll 1ef2Lu 1ef3Ll 1ef4Lu 1ef5Ll 1ef6Lu 1ef7Ll 1ef8Lu 1ef9Ll
  1efaLu 1efbLl 1efcLu 1efdLl 1efeLu 1effLl 1f08Lu 1f10Ll 1f16- 1f18Lu 1f1e- 1f20Ll 1f28Lu
  1f30Ll 1f38Lu 1f40Ll 1f46- 1f48Lu 1f4e- 1f50Ll 1f58- 1f59Lu 1f5a- 1f5bLu 1f5c- 1f5dLu 1f5e-
  1f5fLu 1f60Ll 1f68Lu 1f70Ll 1f7e- 1f80Ll 1f88Lt 1f90Ll 1f98Lt 1fa0Ll 1fa8Lt 1fb0Ll 1fb5-
  1fb6Ll 1fb8Lu 1fbcLt 1fbdSk 1fbeLl 1fbfSk 1fc2Ll 1fc5- 1fc6Ll 1fc8Lu 1fccLt 1fcdSk 1fd0Ll
  1fd4- 1fd6Ll 1fd8Lu 1fdc- 1fddSk 1fe0Ll 1fe8Lu 1fedSk 1ff0- 1ff2Ll 1ff5- 1ff6Ll 1ff8Lu
  1ffcLt 1ffdSk 1fff- 2000Zs 200bCf 2010Pd 2016Po 2018Pi 2019Pf 201aPs 201bPi 201dPf 201ePs
  201fPi 2020Po 2028Zl 2029Zp 202aCf 202fZs 2030Po 2039Pi 203aPf 203bPo 203fPc 2041Po 2044Sm
  2045Ps 2046Pe 2047Po 2052Sm 2053Po 2054Pc 2055Po 205fZs 2060Cf 2065- 2066Cf 2070No 2071Lm
  2072- 2074No 207aSm 207dPs 207ePe 207fLm 2080No 208aSm 208dPs 208ePe 208f- 2090Lm 209d-
  20a0Sc 20c1- 20d0Mn 20ddMe 20e1Mn 20e2Me 20e5Mn 20f1- 2100So 2102Lu 2103So 2107Lu 2108So
  210aLl 210bLu 210eLl 2110Lu 2113Ll 2114So 2115Lu 2116So 2118Sm 2119Lu 211eSo 2124Lu 2125So
  2126Lu 2127So 2128Lu 2129So 212aLu 212eSo 212fLl 2130Lu 2134Ll 2135Lo 2139Ll 213aSo 213cLl
  213eLu 2140Sm 2145Lu 2146Ll 214aSo 214bSm 214cSo 214eLl 214fSo 2150No 2160Nl 2183Lu 2184Ll
  2185Nl 2189No 218aSo 218c- 2190Sm 2195So 219aSm 219cSo 21a0Sm 21a1So 21a3Sm 21a4So 21a6Sm
  21a7So 21aeSm 21afSo 21ceSm 21d0So 21d2Sm 21d3So 21d4Sm 21d5So 21f4Sm 2300So 2308Ps 2309Pe
  230aPs 230bPe 230cSo 2320Sm 2322So 2329Ps 232aPe 232bSo 237cSm 237dSo 239bSm 23b4So 23dcSm
  23e2So 2427- 2440So 244b- 2460No 249cSo 24eaNo 2500So 25b7Sm 25b8So 25c1Sm 25c2So 25f8Sm
  2600So 266fSm 2670So 2768Ps 2769Pe 276aPs 276bPe 276cPs 276dPe 276ePs 276fPe 2770Ps 2771Pe
  2772Ps 2773Pe 2774Ps 2775Pe 2776No 2794So 27c0Sm 27c5Ps 27c6Pe 27c7Sm 27e6Ps 27e7Pe 27e8Ps
  27e9Pe 27eaPs 27ebPe 27ecPs 27edPe 27eePs 27efPe 27f0Sm 2800So 2900Sm 2983Ps 2984Pe 2985Ps
  2986Pe 2987Ps 2988Pe 2989Ps 298aPe 298bPs 298cPe 298dPs 298ePe 298fPs 2990Pe 2991Ps 2992Pe
  2993Ps 2994Pe 2995Ps 2996Pe 2997Ps 2998Pe 2999Sm 29d8Ps 29d9Pe 29daPs 29dbPe 29dcSm 29fcPs
  29fdPe 29feSm 2b00So 2b30Sm 2b45So 2b47Sm 2b4dSo 2b74- 2b76So 2b96- 2b97So 2c00Lu 2c30Ll
  2c60Lu 2c61Ll 2c62Lu 2c65Ll 2c67Lu 2c68Ll 2c69Lu 2c6aLl 2c6bLu 2c6cLl 2c6dLu 2c71Ll 2c72Lu
  2c73Ll 2c75Lu 2c76Ll 2c7cLm 2c7eLu 2c81Ll 2c82Lu 2c83Ll 2c84Lu 2c85Ll 2c86Lu 2c87Ll 2c88Lu
  2c89Ll 2c8aLu 2c8bLl 2c8cLu 2c8dLl 2c8eLu 2c8fLl 2c90Lu 2c91Ll 2c92Lu 2c93Ll 2c94Lu 2c95Ll
  2c96Lu 2c97Ll 2c98Lu 2c99Ll 2c9aLu 2c9bLl 2c9cLu 2c9dLl 2c9eLu 2c9fLl 2ca0Lu 2ca1Ll 2ca2Lu
  2ca3Ll 2ca4Lu 2ca5Ll 2ca6Lu 2ca7Ll 2ca8Lu 2ca9Ll 2caaLu 2cabLl 2cacLu 2cadLl 2caeLu 2cafLl
  2cb0Lu 2cb1Ll 2cb2Lu 2cb3Ll 2cb4Lu 2cb5Ll 2cb6Lu 2cb7Ll 2cb8Lu 2cb9Ll 2cbaLu 2cbbLl 2cbcLu
  2cbdLl 2cbeLu 2cbfLl 2cc0Lu 2cc1Ll 2cc2Lu 2cc3Ll 2cc4Lu 2cc5Ll 2cc6Lu 2cc7Ll 2cc8Lu 2cc9Ll
  2ccaLu 2ccbLl 2cccLu 2ccdLl 2cceLu 2ccfLl 2cd0Lu 2cd1Ll 2cd2Lu 2cd3Ll 2cd4Lu 2cd5Ll 2cd6Lu
  2cd7Ll 2cd8Lu 2cd9Ll 2cdaLu 2cdbLl 2cdcLu 2cddLl 2cdeLu 2cdfLl 2ce0Lu 2ce1Ll 2ce2Lu 2ce3Ll
  2ce5So 2cebLu 2cecLl 2cedLu 2ceeLl 2cefMn 2cf2Lu 2cf3Ll 2cf4- 2cf9Po 2cfdNo 2cfePo 2d00Ll
  2d26- 2d27Ll 2d28- 2d2dLl 2d2e- 2d30Lo 2d68- 2d6fLm 2d70Po 2d71- 2d7fMn 2d80Lo 2d97- 2da0Lo
  2da7- 2da8Lo 2daf- 2db0Lo 2db7- 2db8Lo 2dbf- 2dc0Lo 2dc7- 2dc8Lo 2dcf- 2dd0Lo 2dd7- 2dd8Lo
  2ddf- 2de0Mn 2e00Po 2e02Pi 2e03Pf 2e04Pi 2e05Pf 2e06Po 2e09Pi 2e0aPf 2e0bPo 2e0cPi 2e0dPf
  2e0ePo 2e17Pd 2e18Po 2e1aPd 2e1bPo 2e1cPi 2e1dPf 2e1ePo 2e20Pi 2e21Pf 2e22Ps 2e23Pe 2e24Ps
  2e25Pe 2e26Ps 2e27Pe 2e28Ps 2e29Pe 2e2aPo 2e2fLm 2e30Po 2e3aPd 2e3cPo 2e40Pd 2e41Po 2e42Ps
  2e43Po 2e50So 2e52Po 2e55Ps 2e56Pe 2e57Ps 2e58Pe 2e59Ps 2e5aPe 2e5bPs 2e5cPe 2e5dPd 2e5e-
  2e80So 2e9a- 2e9bSo 2ef4- 2f00So 2fd6- 2ff0So 2ffc- 3000Zs 3001Po 3004So 3005Lm 3006Lo
  3007Nl 3008Ps 3009Pe 300aPs 300bPe 300cPs 300dPe 300ePs 300fPe 3010Ps 3011Pe 3012So 3014Ps
  3015Pe 3016Ps 3017Pe 3018Ps 3019Pe 301aPs 301bPe 301cPd 301dPs 301ePe 3020So 3021Nl 302aMn
  302eMc 3030Pd 3031Lm 3036So 3038Nl 303bLm 303cLo 303dPo 303eSo 3040- 3041Lo 3097- 3099Mn
  309bSk 309dLm 309fLo 30a0Pd 30a1Lo 30fbPo 30fcLm 30ffLo 3100- 3105Lo 3130- 3131Lo 318f-
  3190So 3192No 3196So 31a0Lo 31c0So 31e4- 31f0Lo 3200So 321f- 3220No 322aSo 3248No 3250So
  3251No 3260So 3280No 328aSo 32b1No 32c0So 3400Lo 4dc0So 4e00Lo a015Lm a016Lo a48d- a490So
  a4c7- a4d0Lo a4f8Lm a4fePo a500Lo a60cLm a60dPo a610Lo a620Nd a62aLo a62c- a640Lu a641Ll
  a642Lu a643Ll a644Lu a645Ll a646Lu a647Ll a648Lu a649Ll a64aLu a64bLl a64cLu a64dLl a64eLu
  a64fLl a650Lu a651Ll a652Lu a653Ll a654Lu a655Ll a656Lu a657Ll a658Lu a659Ll a65aLu a65bLl
  a65cLu a65dLl a65eLu a65fLl a660Lu a661Ll a662Lu a663Ll a664Lu a665Ll a666Lu a667Ll a668Lu
  a669Ll a66aLu a66bLl a66cLu a66dLl a66eLo a66fMn a670Me a673Po a674Mn a67ePo a67fLm a680Lu
  a681Ll a682Lu a683Ll a684Lu a685Ll a686Lu a687Ll a688Lu a689Ll a68aLu a68bLl a68cLu a68dLl
  a68eLu a68fLl a690Lu a691Ll a692Lu a693Ll a694Lu a695Ll a696Lu a697Ll a698Lu a699Ll a69aLu
  a69bLl a69cLm a69eMn a6a0Lo a6e6Nl a6f0Mn a6f2Po a6f8- a700Sk a717Lm a720Sk a722Lu a723Ll
  a724Lu a725Ll a726Lu a727Ll a728Lu a729Ll a72aLu a72bLl a72cLu a72dLl a72eLu a72fLl a732Lu
  a733Ll a734Lu a735Ll a736Lu a737Ll a738Lu a739Ll a73aLu a73bLl a73cLu a73dLl a73eLu a73fLl
  a740Lu a741Ll a742Lu a743Ll a744Lu a745Ll a746Lu a747Ll a748Lu a749Ll a74aLu a74bLl a74cLu
  a74dLl a74eLu a74fLl a750Lu a751Ll a752Lu a753Ll a754Lu a755Ll a756Lu a757Ll a758Lu a759Ll
  a75aLu a75bLl a75cLu a75dLl a75eLu a75fLl a760Lu a761Ll a762Lu a763Ll a764Lu a765Ll a766Lu
  a767Ll a768Lu a769Ll a76aLu a76bLl a76cLu a76dLl a76eLu a76fLl a770Lm a771Ll a779Lu a77aLl
  a77bLu a77cLl a77dLu a77fLl a780Lu a781Ll a782Lu a783Ll a784Lu a785Ll a786Lu a787Ll a788Lm
  a789Sk a78bLu a78cLl a78dLu a78eLl a78fLo a790Lu a791Ll a792Lu a793Ll a796Lu a797Ll a798Lu
  a799Ll a79aLu a79bLl a79cLu a79dLl a79eLu a79fLl a7a0Lu a7a1Ll a7a2Lu a7a3Ll a7a4Lu a7a5Ll
  a7a6Lu a7a7Ll a7a8Lu a7a9Ll a7aaLu a7afLl a7b0Lu a7b5Ll a7b6Lu a7b7Ll a7b8Lu a7b9Ll a7baLu
  a7bbLl a7bcLu a7bdLl a7beLu a7bfLl a7c0Lu a7c1Ll a7c2Lu a7c3Ll a7c4Lu a7c8Ll a7c9Lu a7caLl
  a7cb- a7d0Lu a7d1Ll a7d2- a7d3Ll a7d4- a7d5Ll a7d6Lu a7d7Ll a7d8Lu a7d9Ll a7da- a7f2Lm
  a7f5Lu a7f6Ll a7f7Lo a7f8Lm a7faLl a7fbLo a802Mn a803Lo a806Mn a807Lo a80bMn a80cLo a823Mc
  a825Mn a827Mc a828So a82cMn a82d- a830No a836So a838Sc a839So a83a- a840Lo a874Po a878-
  a880Mc a882Lo a8b4Mc a8c4Mn a8c6- a8cePo a8d0Nd a8da- a8e0Mn a8f2Lo a8f8Po a8fbLo a8fcPo
  a8fdLo a8ffMn a900Nd a90aLo a926Mn a92ePo a930Lo a947Mn a952Mc a954- a95fPo a960Lo a97d-
  a980Mn a983Mc a984Lo a9b3Mn a9b4Mc a9b6Mn a9baMc a9bcMn a9beMc a9c1Po a9ce- a9cfLm a9d0Nd
  a9da- a9dePo a9e0Lo a9e5Mn a9e6Lm a9e7Lo a9f0Nd a9faLo a9ff- aa00Lo aa29Mn aa2fMc aa31Mn
  aa33Mc aa35Mn aa37- aa40Lo aa43Mn aa44Lo aa4cMn aa4dMc aa4e- aa50Nd aa5a- aa5cPo aa60Lo
  aa70Lm aa71Lo aa77So aa7aLo aa7bMc aa7cMn aa7dMc aa7eLo aab0Mn aab1Lo aab2Mn aab5Lo aab7Mn
  aab9Lo aabeMn aac0Lo aac1Mn aac2Lo aac3- aadbLo aaddLm aadePo aae0Lo aaebMc aaecMn aaeeMc
  aaf0Po aaf2Lo aaf3Lm aaf5Mc aaf6Mn aaf7- ab01Lo ab07- ab09Lo ab0f- ab11Lo ab17- ab20Lo ab27-
  ab28Lo ab2f- ab30Ll ab5bSk ab5cLm ab60Ll ab69Lm ab6aSk ab6c- ab70Ll abc0Lo abe3Mc abe5Mn
  abe6Mc abe8Mn abe9Mc abebPo abecMc abedMn abee- abf0Nd abfa- ac00Lo d7a4- d7b0Lo d7c7-
  d7cbLo d7fc- d800Cs e000Co f900Lo fa6e- fa70Lo fada- fb00Ll fb07- fb13Ll fb18- fb1dLo fb1eMn
  fb1fLo fb29Sm fb2aLo fb37- fb38Lo fb3d- fb3eLo fb3f- fb40Lo fb42- fb43Lo fb45- fb46Lo fbb2Sk
  fbc3- fbd3Lo fd3ePe fd3fPs fd40So fd50Lo fd90- fd92Lo fdc8- fdcfSo fdd0- fdf0Lo fdfcSc
  fdfdSo fe00Mn fe10Po fe17Ps fe18Pe fe19Po fe1a- fe20Mn fe30Po fe31Pd fe33Pc fe35Ps fe36Pe
  fe37Ps fe38Pe fe39Ps fe3aPe fe3bPs fe3cPe fe3dPs fe3ePe fe3fPs fe40Pe fe41Ps fe42Pe fe43Ps
  fe44Pe fe45Po fe47Ps fe48Pe fe49Po fe4dPc fe50Po fe53- fe54Po fe58Pd fe59Ps fe5aPe fe5bPs
  fe5cPe fe5dPs fe5ePe fe5fPo fe62Sm fe63Pd fe64Sm fe67- fe68Po fe69Sc fe6aPo fe6c- fe70Lo
  fe75- fe76Lo fefd- feffCf ff00- ff01Po ff04Sc ff05Po ff08Ps ff09Pe ff0aPo ff0bSm ff0cPo
  ff0dPd ff0ePo ff10Nd ff1aPo ff1cSm ff1fPo ff21Lu ff3bPs ff3cPo ff3dPe ff3eSk ff3fPc ff40Sk
  ff41Ll ff5bPs ff5cSm ff5dPe ff5eSm ff5fPs ff60Pe ff61Po ff62Ps ff63Pe ff64Po ff66Lo ff70Lm
  ff71Lo ff9eLm ffa0Lo ffbf- ffc2Lo ffc8- ffcaLo ffd0- ffd2Lo ffd8- ffdaLo ffdd- ffe0Sc ffe2Sm
  ffe3Sk ffe4So ffe5Sc ffe7- ffe8So ffe9Sm ffedSo ffef- fff9Cf fffcSo fffe- 10000Lo 1000c-
  1000dLo 10027- 10028Lo 1003b- 1003cLo 1003e- 1003fLo 1004e- 10050Lo 1005e- 10080Lo 100fb-
  10100Po 10103- 10107No 10134- 10137So 10140Nl 10175No 10179So 1018aNo 1018cSo 1018f- 10190So
  1019d- 101a0So 101a1- 101d0So 101fdMn 101fe- 10280Lo 1029d- 102a0Lo 102d1- 102e0Mn 102e1No
  102fc- 10300Lo 10320No 10324- 1032dLo 10341Nl 10342Lo 1034aNl 1034b- 10350Lo 10376Mn 1037b-
  10380Lo 1039e- 1039fPo 103a0Lo 103c4- 103c8Lo 103d0Po 103d1Nl 103d6- 10400Lu 10428Ll 10450Lo
  1049e- 104a0Nd 104aa- 104b0Lu 104d4- 104d8Ll 104fc- 10500Lo 10528- 10530Lo 10564- 1056fPo
  10570Lu 1057b- 1057cLu 1058b- 1058cLu 10593- 10594Lu 10596- 10597Ll 105a2- 105a3Ll 105b2-
  105b3Ll 105ba- 105bbLl 105bd- 10600Lo 10737- 10740Lo 10756- 10760Lo 10768- 10780Lm 10786-
  10787Lm 107b1- 107b2Lm 107bb- 10800Lo 10806- 10808Lo 10809- 1080aLo 10836- 10837Lo 10839-
  1083cLo 1083d- 1083fLo 10856- 10857Po 10858No 10860Lo 10877So 10879No 10880Lo 1089f- 108a7No
  108b0- 108e0Lo 108f3- 108f4Lo 108f6- 108fbNo 10900Lo 10916No 1091c- 1091fPo 10920Lo 1093a-
  1093fPo 10940- 10980Lo 109b8- 109bcNo 109beLo 109c0No 109d0- 109d2No 10a00Lo 10a01Mn 10a04-
  10a05Mn 10a07- 10a0cMn 10a10Lo 10a14- 10a15Lo 10a18- 10a19Lo 10a36- 10a38Mn 10a3b- 10a3fMn
  10a40No 10a49- 10a50Po 10a59- 10a60Lo 10a7dNo 10a7fPo 10a80Lo 10a9dNo 10aa0- 10ac0Lo 10ac8So
  10ac9Lo 10ae5Mn 10ae7- 10aebNo 10af0Po 10af7- 10b00Lo 10b36- 10b39Po 10b40Lo 10b56- 10b58No
  10b60Lo 10b73- 10b78No 10b80Lo 10b92- 10b99Po 10b9d- 10ba9No 10bb0- 10c00Lo 10c49- 10c80Lu
  10cb3- 10cc0Ll 10cf3- 10cfaNo 10d00Lo 10d24Mn 10d28- 10d30Nd 10d3a- 10e60No 10e7f- 10e80Lo
  10eaa- 10eabMn 10eadPd 10eae- 10eb0Lo 10eb2- 10efdMn 10f00Lo 10f1dNo 10f27Lo 10f28- 10f30Lo
  10f46Mn 10f51No 10f55Po 10f5a- 10f70Lo 10f82Mn 10f86Po 10f8a- 10fb0Lo 10fc5No 10fcc- 10fe0Lo
  10ff7- 11000Mc 11001Mn 11002Mc 11003Lo 11038Mn 11047Po 1104e- 11052No 11066Nd 11070Mn
  11071Lo 11073Mn 11075Lo 11076- 1107fMn 11082Mc 11083Lo 110b0Mc 110b3Mn 110b7Mc 110b9Mn
  110bbPo 110bdCf 110bePo 110c2Mn 110c3- 110cdCf 110ce- 110d0Lo 110e9- 110f0Nd 110fa- 11100Mn
  11103Lo 11127Mn 1112cMc 1112dMn 11135- 11136Nd 11140Po 11144Lo 11145Mc 11147Lo 11148-
  11150Lo 11173Mn 11174Po 11176Lo 11177- 11180Mn 11182Mc 11183Lo 111b3Mc 111b6Mn 111bfMc
  111c1Lo 111c5Po 111c9Mn 111cdPo 111ceMc 111cfMn 111d0Nd 111daLo 111dbPo 111dcLo 111ddPo
  111e0- 111e1No 111f5- 11200Lo 11212- 11213Lo 1122cMc 1122fMn 11232Mc 11234Mn 11235Mc 11236Mn
  11238Po 1123eMn 1123fLo 11241Mn 11242- 11280Lo 11287- 11288Lo 11289- 1128aLo 1128e- 1128fLo
  1129e- 1129fLo 112a9Po 112aa- 112b0Lo 112dfMn 112e0Mc 112e3Mn 112eb- 112f0Nd 112fa- 11300Mn
  11302Mc 11304- 11305Lo 1130d- 1130fLo 11311- 11313Lo 11329- 1132aLo 11331- 11332Lo 11334-
  11335Lo 1133a- 1133bMn 1133dLo 1133eMc 11340Mn 11341Mc 11345- 11347Mc 11349- 1134bMc 1134e-
  11350Lo 11351- 11357Mc 11358- 1135dLo 11362Mc 11364- 11366Mn 1136d- 11370Mn 11375- 11400Lo
  11435Mc 11438Mn 11440Mc 11442Mn 11445Mc 11446Mn 11447Lo 1144bPo 11450Nd 1145aPo 1145c-
  1145dPo 1145eMn 1145fLo 11462- 11480Lo 114b0Mc 114b3Mn 114b9Mc 114baMn 114bbMc 114bfMn
  114c1Mc 114c2Mn 114c4Lo 114c6Po 114c7Lo 114c8- 114d0Nd 114da- 11580Lo 115afMc 115b2Mn 115b6-
  115b8Mc 115bcMn 115beMc 115bfMn 115c1Po 115d8Lo 115dcMn 115de- 11600Lo 11630Mc 11633Mn
  1163bMc 1163dMn 1163eMc 1163fMn 11641Po 11644Lo 11645- 11650Nd 1165a- 11660Po 1166d- 11680Lo
  116abMn 116acMc 116adMn 116aeMc 116b0Mn 116b6Mc 116b7Mn 116b8Lo 116b9Po 116ba- 116c0Nd
  116ca- 11700Lo 1171b- 1171dMn 11720Mc 11722Mn 11726Mc 11727Mn 1172c- 11730Nd 1173aNo 1173cPo
  1173fSo 11740Lo 11747- 11800Lo 1182cMc 1182fMn 11838Mc 11839Mn 1183bPo 1183c- 118a0Lu
  118c0Ll 118e0Nd 118eaNo 118f3- 118ffLo 11907- 11909Lo 1190a- 1190cLo 11914- 11915Lo 11917-
  11918Lo 11930Mc 11936- 11937Mc 11939- 1193bMn 1193dMc 1193eMn 1193fLo 11940Mc 11941Lo
  11942Mc 11943Mn 11944Po 11947- 11950Nd 1195a- 119a0Lo 119a8- 119aaLo 119d1Mc 119d4Mn 119d8-
  119daMn 119dcMc 119e0Mn 119e1Lo 119e2Po 119e3Lo 119e4Mc 119e5- 11a00Lo 11a01Mn 11a0bLo
  11a33Mn 11a39Mc 11a3aLo 11a3bMn 11a3fPo 11a47Mn 11a48- 11a50Lo 11a51Mn 11a57Mc 11a59Mn
  11a5cLo 11a8aMn 11a97Mc 11a98Mn 11a9aPo 11a9dLo 11a9ePo 11aa3- 11ab0Lo 11af9- 11b00Po 11b0a-
  11c00Lo 11c09- 11c0aLo 11c2fMc 11c30Mn 11c37- 11c38Mn 11c3eMc 11c3fMn 11c40Lo 11c41Po 11c46-
  11c50Nd 11c5aNo 11c6d- 11c70Po 11c72Lo 11c90- 11c92Mn 11ca8- 11ca9Mc 11caaMn 11cb1Mc 11cb2Mn
  11cb4Mc 11cb5Mn 11cb7- 11d00Lo 11d07- 11d08Lo 11d0a- 11d0bLo 11d31Mn 11d37- 11d3aMn 11d3b-
  11d3cMn 11d3e- 11d3fMn 11d46Lo 11d47Mn 11d48- 11d50Nd 11d5a- 11d60Lo 11d66- 11d67Lo 11d69-
  11d6aLo 11d8aMc 11d8f- 11d90Mn 11d92- 11d93Mc 11d95Mn 11d96Mc 11d97Mn 11d98Lo 11d99- 11da0Nd
  11daa- 11ee0Lo 11ef3Mn 11ef5Mc 11ef7Po 11ef9- 11f00Mn 11f02Lo 11f03Mc 11f04Lo 11f11- 11f12Lo
  11f34Mc 11f36Mn 11f3b- 11f3eMc 11f40Mn 11f41Mc 11f42Mn 11f43Po 11f50Nd 11f5a- 11fb0Lo 11fb1-
  11fc0No 11fd5So 11fddSc 11fe1So 11ff2- 11fffPo 12000Lo 1239a- 12400Nl 1246f- 12470Po 12475-
  12480Lo 12544- 12f90Lo 12ff1Po 12ff3- 13000Lo 13430Cf 13440Mn 13441Lo 13447Mn 13456- 14400Lo
  14647- 16800Lo 16a39- 16a40Lo 16a5f- 16a60Nd 16a6a- 16a6ePo 16a70Lo 16abf- 16ac0Nd 16aca-
  16ad0Lo 16aee- 16af0Mn 16af5Po 16af6- 16b00Lo 16b30Mn 16b37Po 16b3cSo 16b40Lm 16b44Po
  16b45So 16b46- 16b50Nd 16b5a- 16b5bNo 16b62- 16b63Lo 16b78- 16b7dLo 16b90- 16e40Lu 16e60Ll
  16e80No 16e97Po 16e9b- 16f00Lo 16f4b- 16f4fMn 16f50Lo 16f51Mc 16f88- 16f8fMn 16f93Lm 16fa0-
  16fe0Lm 16fe2Po 16fe3Lm 16fe4Mn 16fe5- 16ff0Mc 16ff2- 17000Lo 187f8- 18800Lo 18cd6- 18d00Lo
  18d09- 1aff0Lm 1aff4- 1aff5Lm 1affc- 1affdLm 1afff- 1b000Lo 1b123- 1b132Lo 1b133- 1b150Lo
  1b153- 1b155Lo 1b156- 1b164Lo 1b168- 1b170Lo 1b2fc- 1bc00Lo 1bc6b- 1bc70Lo 1bc7d- 1bc80Lo
  1bc89- 1bc90Lo 1bc9a- 1bc9cSo 1bc9dMn 1bc9fPo 1bca0Cf 1bca4- 1cf00Mn 1cf2e- 1cf30Mn 1cf47-
  1cf50So 1cfc4- 1d000So 1d0f6- 1d100So 1d127- 1d129So 1d165Mc 1d167Mn 1d16aSo 1d16dMc 1d173Cf
  1d17bMn 1d183So 1d185Mn 1d18cSo 1d1aaMn 1d1aeSo 1d1eb- 1d200So 1d242Mn 1d245So 1d246-
  1d2c0No 1d2d4- 1d2e0No 1d2f4- 1d300So 1d357- 1d360No 1d379- 1d400Lu 1d41aLl 1d434Lu 1d44eLl
  1d455- 1d456Ll 1d468Lu 1d482Ll 1d49cLu 1d49d- 1d49eLu 1d4a0- 1d4a2Lu 1d4a3- 1d4a5Lu 1d4a7-
  1d4a9Lu 1d4ad- 1d4aeLu 1d4b6Ll 1d4ba- 1d4bbLl 1d4bc- 1d4bdLl 1d4c4- 1d4c5Ll 1d4d0Lu 1d4eaLl
  1d504Lu 1d506- 1d507Lu 1d50b- 1d50dLu 1d515- 1d516Lu 1d51d- 1d51eLl 1d538Lu 1d53a- 1d53bLu
  1d53f- 1d540Lu 1d545- 1d546Lu 1d547- 1d54aLu 1d551- 1d552Ll 1d56cLu 1d586Ll 1d5a0Lu 1d5baLl
  1d5d4Lu 1d5eeLl 1d608Lu 1d622Ll 1d63cLu 1d656Ll 1d670Lu 1d68aLl 1d6a6- 1d6a8Lu 1d6c1Sm
  1d6c2Ll 1d6dbSm 1d6dcLl 1d6e2Lu 1d6fbSm 1d6fcLl 1d715Sm 1d716Ll 1d71cLu 1d735Sm 1d736Ll
  1d74fSm 1d750Ll 1d756Lu 1d76fSm 1d770Ll 1d789Sm 1d78aLl 1d790Lu 1d7a9Sm 1d7aaLl 1d7c3Sm
  1d7c4Ll 1d7caLu 1d7cbLl 1d7cc- 1d7ceNd 1d800So 1da00Mn 1da37So 1da3bMn 1da6dSo 1da75Mn
  1da76So 1da84Mn 1da85So 1da87Po 1da8c- 1da9bMn 1daa0- 1daa1Mn 1dab0- 1df00Ll 1df0aLo 1df0bLl
  1df1f- 1df25Ll 1df2b- 1e000Mn 1e007- 1e008Mn 1e019- 1e01bMn 1e022- 1e023Mn 1e025- 1e026Mn
  1e02b- 1e030Lm 1e06e- 1e08fMn 1e090- 1e100Lo 1e12d- 1e130Mn 1e137Lm 1e13e- 1e140Nd 1e14a-
  1e14eLo 1e14fSo 1e150- 1e290Lo 1e2aeMn 1e2af- 1e2c0Lo 1e2ecMn 1e2f0Nd 1e2fa- 1e2ffSc 1e300-
  1e4d0Lo 1e4ebLm 1e4ecMn 1e4f0Nd 1e4fa- 1e7e0Lo 1e7e7- 1e7e8Lo 1e7ec- 1e7edLo 1e7ef- 1e7f0Lo
  1e7ff- 1e800Lo 1e8c5- 1e8c7No 1e8d0Mn 1e8d7- 1e900Lu 1e922Ll 1e944Mn 1e94bLm 1e94c- 1e950Nd
  1e95a- 1e95ePo 1e960- 1ec71No 1ecacSo 1ecadNo 1ecb0Sc 1ecb1No 1ecb5- 1ed01No 1ed2eSo 1ed2fNo
  1ed3e- 1ee00Lo 1ee04- 1ee05Lo 1ee20- 1ee21Lo 1ee23- 1ee24Lo 1ee25- 1ee27Lo 1ee28- 1ee29Lo
  1ee33- 1ee34Lo 1ee38- 1ee39Lo 1ee3a- 1ee3bLo 1ee3c- 1ee42Lo 1ee43- 1ee47Lo 1ee48- 1ee49Lo
  1ee4a- 1ee4bLo 1ee4c- 1ee4dLo 1ee50- 1ee51Lo 1ee53- 1ee54Lo 1ee55- 1ee57Lo 1ee58- 1ee59Lo
  1ee5a- 1ee5bLo 1ee5c- 1ee5dLo 1ee5e- 1ee5fLo 1ee60- 1ee61Lo 1ee63- 1ee64Lo 1ee65- 1ee67Lo
  1ee6b- 1ee6cLo 1ee73- 1ee74Lo 1ee78- 1ee79Lo 1ee7d- 1ee7eLo 1ee7f- 1ee80Lo 1ee8a- 1ee8bLo
  1ee9c- 1eea1Lo 1eea4- 1eea5Lo 1eeaa- 1eeabLo 1eebc- 1eef0Sm 1eef2- 1f000So 1f02c- 1f030So
  1f094- 1f0a0So 1f0af- 1f0b1So 1f0c0- 1f0c1So 1f0d0- 1f0d1So 1f0f6- 1f100No 1f10dSo 1f1ae-
  1f1e6So 1f203- 1f210So 1f23c- 1f240So 1f249- 1f250So 1f252- 1f260So 1f266- 1f300So 1f3fbSk
  1f400So 1f6d8- 1f6dcSo 1f6ed- 1f6f0So 1f6fd- 1f700So 1f777- 1f77bSo 1f7da- 1f7e0So 1f7ec-
  1f7f0So 1f7f1- 1f800So 1f80c- 1f810So 1f848- 1f850So 1f85a- 1f860So 1f888- 1f890So 1f8ae-
  1f8b0So 1f8b2- 1f900So 1fa54- 1fa60So 1fa6e- 1fa70So 1fa7d- 1fa80So 1fa89- 1fa90So 1fabe-
  1fabfSo 1fac6- 1faceSo 1fadc- 1fae0So 1fae9- 1faf0So 1faf9- 1fb00So 1fb93- 1fb94So 1fbcb-
  1fbf0Nd 1fbfa- 20000Lo 2a6e0- 2a700Lo 2b73a- 2b740Lo 2b81e- 2b820Lo 2cea2- 2ceb0Lo 2ebe1-
  2f800Lo 2fa1e- 30000Lo 3134b- 31350Lo 323b0- e0001Cf e0002- e0020Cf e0080- e0100Mn e01f0-
  f0000Co ffffe- 100000Co 10fffe-"

/-- The script of every code point. -/
def scripts : Runs := runs
  "0Common 41Latin 5bCommon 61Latin 7bCommon aaLatin abCommon baLatin bbCommon c0Latin d7Common
  d8Latin f7Common f8Latin 2b9Common 2e0Latin 2e5Common 2eaBopomofo 2ecCommon 300Inherited
  370Greek 374Common 375Greek 378- 37aGreek 37eCommon 37fGreek 380- 384Greek 385Common
  386Greek 387Common 388Greek 38b- 38cGreek 38d- 38eGreek 3a2- 3a3Greek 3e2Coptic 3f0Greek
  400Cyrillic 485Inherited 487Cyrillic 530- 531Armenian 557- 559Armenian 58b- 58dArmenian 590-
  591Hebrew 5c8- 5d0Hebrew 5eb- 5efHebrew 5f5- 600Arabic 605Common 606Arabic 60cCommon
  60dArabic 61bCommon 61cArabic 61fCommon 620Arabic 640Common 641Arabic 64bInherited 656Arabic
  670Inherited 671Arabic 6ddCommon 6deArabic 700Syriac 70e- 70fSyriac 74b- 74dSyriac 750Arabic
  780Thaana 7b2- 7c0Nko 7fb- 7fdNko 800Samaritan 82e- 830Samaritan 83f- 840Mandaic 85c-
  85eMandaic 85f- 860Syriac 86b- 870Arabic 88f- 890Arabic 892- 898Arabic 8e2Common 8e3Arabic
  900Devanagari 951Inherited 955Devanagari 964Common 966Devanagari 980Bengali 984- 985Bengali
  98d- 98fBengali 991- 993Bengali 9a9- 9aaBengali 9b1- 9b2Bengali 9b3- 9b6Bengali 9ba-
  9bcBengali 9c5- 9c7Bengali 9c9- 9cbBengali 9cf- 9d7Bengali 9d8- 9dcBengali 9de- 9dfBengali
  9e4- 9e6Bengali 9ff- a01Gurmukhi a04- a05Gurmukhi a0b- a0fGurmukhi a11- a13Gurmukhi a29-
  a2aGurmukhi a31- a32Gurmukhi a34- a35Gurmukhi a37- a38Gurmukhi a3a- a3cGurmukhi a3d-
  a3eGurmukhi a43- a47Gurmukhi a49- a4bGurmukhi a4e- a51Gurmukhi a52- a59Gurmukhi a5d-
  a5eGurmukhi a5f- a66Gurmukhi a77- a81Gujarati a84- a85Gujarati a8e- a8fGujarati a92-
  a93Gujarati aa9- aaaGujarati ab1- ab2Gujarati ab4- ab5Gujarati aba- abcGujarati ac6-
  ac7Gujarati aca- acbGujarati ace- ad0Gujarati ad1- ae0Gujarati ae4- ae6Gujarati af2-
  af9Gujarati b00- b01Oriya b04- b05Oriya b0d- b0fOriya b11- b13Oriya b29- b2aOriya b31-
  b32Oriya b34- b35Oriya b3a- b3cOriya b45- b47Oriya b49- b4bOriya b4e- b55Oriya b58- b5cOriya
  b5e- b5fOriya b64- b66Oriya b78- b82Tamil b84- b85Tamil b8b- b8eTamil b91- b92Tamil b96-
  b99Tamil b9b- b9cTamil b9d- b9eTamil ba0- ba3Tamil ba5- ba8Tamil bab- baeTamil bba- bbeTamil
  bc3- bc6Tamil bc9- bcaTamil bce- bd0Tamil bd1- bd7Tamil bd8- be6Tamil bfb- c00Telugu c0d-
  c0eTelugu c11- c12Telugu c29- c2aTelugu c3a- c3cTelugu c45- c46Telugu c49- c4aTelugu c4e-
  c55Telugu c57- c58Telugu c5b- c5dTelugu c5e- c60Telugu c64- c66Telugu c70- c77Telugu
  c80Kannada c8d- c8eKannada c91- c92Kannada ca9- caaKannada cb4- cb5Kannada cba- cbcKannada
  cc5- cc6Kannada cc9- ccaKannada cce- cd5Kannada cd7- cddKannada cdf- ce0Kannada ce4-
  ce6Kannada cf0- cf1Kannada cf4- d00Malayalam d0d- d0eMalayalam d11- d12Malayalam d45-
  d46Malayalam d49- d4aMalayalam d50- d54Malayalam d64- d66Malayalam d80- d81Sinhala d84-
  d85Sinhala d97- d9aSinhala db2- db3Sinhala dbc- dbdSinhala dbe- dc0Sinhala dc7- dcaSinhala
  dcb- dcfSinhala dd5- dd6Sinhala dd7- dd8Sinhala de0- de6Sinhala df0- df2Sinhala df5- e01Thai
  e3b- e3fCommon e40Thai e5c- e81Lao e83- e84Lao e85- e86Lao e8b- e8cLao ea4- ea5Lao ea6-
  ea7Lao ebe- ec0Lao ec5- ec6Lao ec7- ec8Lao ecf- ed0Lao eda- edcLao ee0- f00Tibetan f48-
  f49Tibetan f6d- f71Tibetan f98- f99Tibetan fbd- fbeTibetan fcd- fceTibetan fd5Common
  fd9Tibetan fdb- 1000Myanmar 10a0Georgian 10c6- 10c7Georgian 10c8- 10cdGeorgian 10ce-
  10d0Georgian 10fbCommon 10fcGeorgian 1100Hangul 1200Ethiopic 1249- 124aEthiopic 124e-
  1250Ethiopic 1257- 1258Ethiopic 1259- 125aEthiopic 125e- 1260Ethiopic 1289- 128aEthiopic
  128e- 1290Ethiopic 12b1- 12b2Ethiopic 12b6- 12b8Ethiopic 12bf- 12c0Ethiopic 12c1-
  12c2Ethiopic 12c6- 12c8Ethiopic 12d7- 12d8Ethiopic 1311- 1312Ethiopic 1316- 1318Ethiopic
  135b- 135dEthiopic 137d- 1380Ethiopic 139a- 13a0Cherokee 13f6- 13f8Cherokee 13fe-
  1400Canadian_Aboriginal 1680Ogham 169d- 16a0Runic 16ebCommon 16eeRunic 16f9- 1700Tagalog
  1716- 171fTagalog 1720Hanunoo 1735Common 1737- 1740Buhid 1754- 1760Tagbanwa 176d-
  176eTagbanwa 1771- 1772Tagbanwa 1774- 1780Khmer 17de- 17e0Khmer 17ea- 17f0Khmer 17fa-
  1800Mongolian 1802Common 1804Mongolian 1805Common 1806Mongolian 181a- 1820Mongolian 1879-
  1880Mongolian 18ab- 18b0Canadian_Aboriginal 18f6- 1900Limbu 191f- 1920Limbu 192c- 1930Limbu
  193c- 1940Limbu 1941- 1944Limbu 1950Tai_Le 196e- 1970Tai_Le 1975- 1980New_Tai_Lue 19ac-
  19b0New_Tai_Lue 19ca- 19d0New_Tai_Lue 19db- 19deNew_Tai_Lue 19e0Khmer 1a00Buginese 1a1c-
  1a1eBuginese 1a20Tai_Tham 1a5f- 1a60Tai_Tham 1a7d- 1a7fTai_Tham 1a8a- 1a90Tai_Tham 1a9a-
  1aa0Tai_Tham 1aae- 1ab0Inherited 1acf- 1b00Balinese 1b4d- 1b50Balinese 1b7f- 1b80Sundanese
  1bc0Batak 1bf4- 1bfcBatak 1c00Lepcha 1c38- 1c3bLepcha 1c4a- 1c4dLepcha 1c50Ol_Chiki
  1c80Cyrillic 1c89- 1c90Georgian 1cbb- 1cbdGeorgian 1cc0Sundanese 1cc8- 1cd0Inherited
  1cd3Common 1cd4Inherited 1ce1Common 1ce2Inherited 1ce9Common 1cedInherited 1ceeCommon
  1cf4Inherited 1cf5Common 1cf8Inherited 1cfaCommon 1cfb- 1d00Latin 1d26Greek 1d2bCyrillic
  1d2cLatin 1d5dGreek 1d62Latin 1d66Greek 1d6bLatin 1d78Cyrillic 1d79Latin 1dbfGreek
  1dc0Inherited 1e00Latin 1f00Greek 1f16- 1f18Greek 1f1e- 1f20Greek 1f46- 1f48Greek 1f4e-
  1f50Greek 1f58- 1f59Greek 1f5a- 1f5bGreek 1f5c- 1f5dGreek 1f5e- 1f5fGreek 1f7e- 1f80Greek
  1fb5- 1fb6Greek 1fc5- 1fc6Greek 1fd4- 1fd6Greek 1fdc- 1fddGreek 1ff0- 1ff2Greek 1ff5-
  1ff6Greek 1fff- 2000Common 200cInherited 200eCommon 2065- 2066Common 2071Latin 2072-
  2074Common 207fLatin 2080Common 208f- 2090Latin 209d- 20a0Common 20c1- 20d0Inherited 20f1-
  2100Common 2126Greek 2127Common 212aLatin 212cCommon 2132Latin 2133Common 214eLatin
  214fCommon 2160Latin 2189Common 218c- 2190Common 2427- 2440Common 244b- 2460Common
  2800Braille 2900Common 2b74- 2b76Common 2b96- 2b97Common 2c00Glagolitic 2c60Latin 2c80Coptic
  2cf4- 2cf9Coptic 2d00Georgian 2d26- 2d27Georgian 2d28- 2d2dGeorgian 2d2e- 2d30Tifinagh 2d68-
  2d6fTifinagh 2d71- 2d7fTifinagh 2d80Ethiopic 2d97- 2da0Ethiopic 2da7- 2da8Ethiopic 2daf-
  2db0Ethiopic 2db7- 2db8Ethiopic 2dbf- 2dc0Ethiopic 2dc7- 2dc8Ethiopic 2dcf- 2dd0Ethiopic
  2dd7- 2dd8Ethiopic 2ddf- 2de0Cyrillic 2e00Common 2e5e- 2e80Han 2e9a- 2e9bHan 2ef4- 2f00Han
  2fd6- 2ff0Common 2ffc- 3000Common 3005Han 3006Common 3007Han 3008Common 3021Han
  302aInherited 302eHangul 3030Common 3038Han 303cCommon 3040- 3041Hiragana 3097-
  3099Inherited 309bCommon 309dHiragana 30a0Common 30a1Katakana 30fbCommon 30fdKatakana 3100-
  3105Bopomofo 3130- 3131Hangul 318f- 3190Common 31a0Bopomofo 31c0Common 31e4- 31f0Katakana
  3200Hangul 321f- 3220Common 3260Hangul 327fCommon 32d0Katakana 32ffCommon 3300Katakana
  3358Common 3400Han 4dc0Common 4e00Han a000Yi a48d- a490Yi a4c7- a4d0Lisu a500Vai a62c-
  a640Cyrillic a6a0Bamum a6f8- a700Common a722Latin a788Common a78bLatin a7cb- a7d0Latin a7d2-
  a7d3Latin a7d4- a7d5Latin a7da- a7f2Latin a800Syloti_Nagri a82d- a830Common a83a-
  a840Phags_Pa a878- a880Saurashtra a8c6- a8ceSaurashtra a8da- a8e0Devanagari a900Kayah_Li
  a92eCommon a92fKayah_Li a930Rejang a954- a95fRejang a960Hangul a97d- a980Javanese a9ce-
  a9cfCommon a9d0Javanese a9da- a9deJavanese a9e0Myanmar a9ff- aa00Cham aa37- aa40Cham aa4e-
  aa50Cham aa5a- aa5cCham aa60Myanmar aa80Tai_Viet aac3- aadbTai_Viet aae0Meetei_Mayek aaf7-
  ab01Ethiopic ab07- ab09Ethiopic ab0f- ab11Ethiopic ab17- ab20Ethiopic ab27- ab28Ethiopic
  ab2f- ab30Latin ab5bCommon ab5cLatin ab65Greek ab66Latin ab6aCommon ab6c- ab70Cherokee
  abc0Meetei_Mayek abee- abf0Meetei_Mayek abfa- ac00Hangul d7a4- d7b0Hangul d7c7- d7cbHangul
  d7fc- f900Han fa6e- fa70Han fada- fb00Latin fb07- fb13Armenian fb18- fb1dHebrew fb37-
  fb38Hebrew fb3d- fb3eHebrew fb3f- fb40Hebrew fb42- fb43Hebrew fb45- fb46Hebrew fb50Arabic
  fbc3- fbd3Arabic fd3eCommon fd40Arabic fd90- fd92Arabic fdc8- fdcfArabic fdd0- fdf0Arabic
  fe00Inherited fe10Common fe1a- fe20Inherited fe2eCyrillic fe30Common fe53- fe54Common fe67-
  fe68Common fe6c- fe70Arabic fe75- fe76Arabic fefd- feffCommon ff00- ff01Common ff21Latin
  ff3bCommon ff41Latin ff5bCommon ff66Katakana ff70Common ff71Katakana ff9eCommon ffa0Hangul
  ffbf- ffc2Hangul ffc8- ffcaHangul ffd0- ffd2Hangul ffd8- ffdaHangul ffdd- ffe0Common ffe7-
  ffe8Common ffef- fff9Common fffe- 10000Linear_B 1000c- 1000dLinear_B 10027- 10028Linear_B
  1003b- 1003cLinear_B 1003e- 1003fLinear_B 1004e- 10050Linear_B 1005e- 10080Linear_B 100fb-
  10100Common 10103- 10107Common 10134- 10137Common 10140Greek 1018f- 10190Common 1019d-
  101a0Greek 101a1- 101d0Common 101fdInherited 101fe- 10280Lycian 1029d- 102a0Carian 102d1-
  102e0Inherited 102e1Common 102fc- 10300Old_Italic 10324- 1032dOld_Italic 10330Gothic 1034b-
  10350Old_Permic 1037b- 10380Ugaritic 1039e- 1039fUgaritic 103a0Old_Persian 103c4-
  103c8Old_Persian 103d6- 10400Deseret 10450Shavian 10480Osmanya 1049e- 104a0Osmanya 104aa-
  104b0Osage 104d4- 104d8Osage 104fc- 10500Elbasan 10528- 10530Caucasian_Albanian 10564-
  1056fCaucasian_Albanian 10570Vithkuqi 1057b- 1057cVithkuqi 1058b- 1058cVithkuqi 10593-
  10594Vithkuqi 10596- 10597Vithkuqi 105a2- 105a3Vithkuqi 105b2- 105b3Vithkuqi 105ba-
  105bbVithkuqi 105bd- 10600Linear_A 10737- 10740Linear_A 10756- 10760Linear_A 10768-
  10780Latin 10786- 10787Latin 107b1- 107b2Latin 107bb- 10800Cypriot 10806- 10808Cypriot
  10809- 1080aCypriot 10836- 10837Cypriot 10839- 1083cCypriot 1083d- 1083fCypriot
  10840Imperial_Aramaic 10856- 10857Imperial_Aramaic 10860Palmyrene 10880Nabataean 1089f-
  108a7Nabataean 108b0- 108e0Hatran 108f3- 108f4Hatran 108f6- 108fbHatran 10900Phoenician
  1091c- 1091fPhoenician 10920Lydian 1093a- 1093fLydian 10940- 10980Meroitic_Hieroglyphs
  109a0Meroitic_Cursive 109b8- 109bcMeroitic_Cursive 109d0- 109d2Meroitic_Cursive
  10a00Kharoshthi 10a04- 10a05Kharoshthi 10a07- 10a0cKharoshthi 10a14- 10a15Kharoshthi 10a18-
  10a19Kharoshthi 10a36- 10a38Kharoshthi 10a3b- 10a3fKharoshthi 10a49- 10a50Kharoshthi 10a59-
  10a60Old_South_Arabian 10a80Old_North_Arabian 10aa0- 10ac0Manichaean 10ae7- 10aebManichaean
  10af7- 10b00Avestan 10b36- 10b39Avestan 10b40Inscriptional_Parthian 10b56-
  10b58Inscriptional_Parthian 10b60Inscriptional_Pahlavi 10b73- 10b78Inscriptional_Pahlavi
  10b80Psalter_Pahlavi 10b92- 10b99Psalter_Pahlavi 10b9d- 10ba9Psalter_Pahlavi 10bb0-
  10c00Old_Turkic 10c49- 10c80Old_Hungarian 10cb3- 10cc0Old_Hungarian 10cf3-
  10cfaOld_Hungarian 10d00Hanifi_Rohingya 10d28- 10d30Hanifi_Rohingya 10d3a- 10e60Arabic
  10e7f- 10e80Yezidi 10eaa- 10eabYezidi 10eae- 10eb0Yezidi 10eb2- 10efdArabic 10f00Old_Sogdian
  10f28- 10f30Sogdian 10f5a- 10f70Old_Uyghur 10f8a- 10fb0Chorasmian 10fcc- 10fe0Elymaic 10ff7-
  11000Brahmi 1104e- 11052Brahmi 11076- 1107fBrahmi 11080Kaithi 110c3- 110cdKaithi 110ce-
  110d0Sora_Sompeng 110e9- 110f0Sora_Sompeng 110fa- 11100Chakma 11135- 11136Chakma 11148-
  11150Mahajani 11177- 11180Sharada 111e0- 111e1Sinhala 111f5- 11200Khojki 11212- 11213Khojki
  11242- 11280Multani 11287- 11288Multani 11289- 1128aMultani 1128e- 1128fMultani 1129e-
  1129fMultani 112aa- 112b0Khudawadi 112eb- 112f0Khudawadi 112fa- 11300Grantha 11304-
  11305Grantha 1130d- 1130fGrantha 11311- 11313Grantha 11329- 1132aGrantha 11331- 11332Grantha
  11334- 11335Grantha 1133a- 1133bInherited 1133cGrantha 11345- 11347Grantha 11349-
  1134bGrantha 1134e- 11350Grantha 11351- 11357Grantha 11358- 1135dGrantha 11364- 11366Grantha
  1136d- 11370Grantha 11375- 11400Newa 1145c- 1145dNewa 11462- 11480Tirhuta 114c8-
  114d0Tirhuta 114da- 11580Siddham 115b6- 115b8Siddham 115de- 11600Modi 11645- 11650Modi
  1165a- 11660Mongolian 1166d- 11680Takri 116ba- 116c0Takri 116ca- 11700Ahom 1171b- 1171dAhom
  1172c- 11730Ahom 11747- 11800Dogra 1183c- 118a0Warang_Citi 118f3- 118ffWarang_Citi
  11900Dives_Akuru 11907- 11909Dives_Akuru 1190a- 1190cDives_Akuru 11914- 11915Dives_Akuru
  11917- 11918Dives_Akuru 11936- 11937Dives_Akuru 11939- 1193bDives_Akuru 11947-
  11950Dives_Akuru 1195a- 119a0Nandinagari 119a8- 119aaNandinagari 119d8- 119daNandinagari
  119e5- 11a00Zanabazar_Square 11a48- 11a50Soyombo 11aa3- 11ab0Canadian_Aboriginal
  11ac0Pau_Cin_Hau 11af9- 11b00Devanagari 11b0a- 11c00Bhaiksuki 11c09- 11c0aBhaiksuki 11c37-
  11c38Bhaiksuki 11c46- 11c50Bhaiksuki 11c6d- 11c70Marchen 11c90- 11c92Marchen 11ca8-
  11ca9Marchen 11cb7- 11d00Masaram_Gondi 11d07- 11d08Masaram_Gondi 11d0a- 11d0bMasaram_Gondi
  11d37- 11d3aMasaram_Gondi 11d3b- 11d3cMasaram_Gondi 11d3e- 11d3fMasaram_Gondi 11d48-
  11d50Masaram_Gondi 11d5a- 11d60Gunjala_Gondi 11d66- 11d67Gunjala_Gondi 11d69-
  11d6aGunjala_Gondi 11d8f- 11d90Gunjala_Gondi 11d92- 11d93Gunjala_Gondi 11d99-
  11da0Gunjala_Gondi 11daa- 11ee0Makasar 11ef9- 11f00Kawi 11f11- 11f12Kawi 11f3b- 11f3eKawi
  11f5a- 11fb0Lisu 11fb1- 11fc0Tamil 11ff2- 11fffTamil 12000Cuneiform 1239a- 12400Cuneiform
  1246f- 12470Cuneiform 12475- 12480Cuneiform 12544- 12f90Cypro_Minoan 12ff3-
  13000Egyptian_Hieroglyphs 13456- 14400Anatolian_Hieroglyphs 14647- 16800Bamum 16a39-
  16a40Mro 16a5f- 16a60Mro 16a6a- 16a6eMro 16a70Tangsa 16abf- 16ac0Tangsa 16aca-
  16ad0Bassa_Vah 16aee- 16af0Bassa_Vah 16af6- 16b00Pahawh_Hmong 16b46- 16b50Pahawh_Hmong
  16b5a- 16b5bPahawh_Hmong 16b62- 16b63Pahawh_Hmong 16b78- 16b7dPahawh_Hmong 16b90-
  16e40Medefaidrin 16e9b- 16f00Miao 16f4b- 16f4fMiao 16f88- 16f8fMiao 16fa0- 16fe0Tangut
  16fe1Nushu 16fe2Han 16fe4Khitan_Small_Script 16fe5- 16ff0Han 16ff2- 17000Tangut 187f8-
  18800Tangut 18b00Khitan_Small_Script 18cd6- 18d00Tangut 18d09- 1aff0Katakana 1aff4-
  1aff5Katakana 1affc- 1affdKatakana 1afff- 1b000Katakana 1b001Hiragana 1b120Katakana 1b123-
  1b132Hiragana 1b133- 1b150Hiragana 1b153- 1b155Katakana 1b156- 1b164Katakana 1b168-
  1b170Nushu 1b2fc- 1bc00Duployan 1bc6b- 1bc70Duployan 1bc7d- 1bc80Duployan 1bc89-
  1bc90Duployan 1bc9a- 1bc9cDuployan 1bca0Common 1bca4- 1cf00Inherited 1cf2e- 1cf30Inherited
  1cf47- 1cf50Common 1cfc4- 1d000Common 1d0f6- 1d100Common 1d127- 1d129Common 1d167Inherited
  1d16aCommon 1d17bInherited 1d183Common 1d185Inherited 1d18cCommon 1d1aaInherited 1d1aeCommon
  1d1eb- 1d200Greek 1d246- 1d2c0Common 1d2d4- 1d2e0Common 1d2f4- 1d300Common 1d357-
  1d360Common 1d379- 1d400Common 1d455- 1d456Common 1d49d- 1d49eCommon 1d4a0- 1d4a2Common
  1d4a3- 1d4a5Common 1d4a7- 1d4a9Common 1d4ad- 1d4aeCommon 1d4ba- 1d4bbCommon 1d4bc-
  1d4bdCommon 1d4c4- 1d4c5Common 1d506- 1d507Common 1d50b- 1d50dCommon 1d515- 1d516Common
  1d51d- 1d51eCommon 1d53a- 1d53bCommon 1d53f- 1d540Common 1d545- 1d546Common 1d547-
  1d54aCommon 1d551- 1d552Common 1d6a6- 1d6a8Common 1d7cc- 1d7ceCommon 1d800SignWriting 1da8c-
  1da9bSignWriting 1daa0- 1daa1SignWriting 1dab0- 1df00Latin 1df1f- 1df25Latin 1df2b-
  1e000Glagolitic 1e007- 1e008Glagolitic 1e019- 1e01bGlagolitic 1e022- 1e023Glagolitic 1e025-
  1e026Glagolitic 1e02b- 1e030Cyrillic 1e06e- 1e08fCyrillic 1e090- 1e100Nyiakeng_Puachue_Hmong
  1e12d- 1e130Nyiakeng_Puachue_Hmong 1e13e- 1e140Nyiakeng_Puachue_Hmong 1e14a-
  1e14eNyiakeng_Puachue_Hmong 1e150- 1e290Toto 1e2af- 1e2c0Wancho 1e2fa- 1e2ffWancho 1e300-
  1e4d0Nag_Mundari 1e4fa- 1e7e0Ethiopic 1e7e7- 1e7e8Ethiopic 1e7ec- 1e7edEthiopic 1e7ef-
  1e7f0Ethiopic 1e7ff- 1e800Mende_Kikakui 1e8c5- 1e8c7Mende_Kikakui 1e8d7- 1e900Adlam 1e94c-
  1e950Adlam 1e95a- 1e95eAdlam 1e960- 1ec71Common 1ecb5- 1ed01Common 1ed3e- 1ee00Arabic 1ee04-
  1ee05Arabic 1ee20- 1ee21Arabic 1ee23- 1ee24Arabic 1ee25- 1ee27Arabic 1ee28- 1ee29Arabic
  1ee33- 1ee34Arabic 1ee38- 1ee39Arabic 1ee3a- 1ee3bArabic 1ee3c- 1ee42Arabic 1ee43-
  1ee47Arabic 1ee48- 1ee49Arabic 1ee4a- 1ee4bArabic 1ee4c- 1ee4dArabic 1ee50- 1ee51Arabic
  1ee53- 1ee54Arabic 1ee55- 1ee57Arabic 1ee58- 1ee59Arabic 1ee5a- 1ee5bArabic 1ee5c-
  1ee5dArabic 1ee5e- 1ee5fArabic 1ee60- 1ee61Arabic 1ee63- 1ee64Arabic 1ee65- 1ee67Arabic
  1ee6b- 1ee6cArabic 1ee73- 1ee74Arabic 1ee78- 1ee79Arabic 1ee7d- 1ee7eArabic 1ee7f-
  1ee80Arabic 1ee8a- 1ee8bArabic 1ee9c- 1eea1Arabic 1eea4- 1eea5Arabic 1eeaa- 1eeabArabic
  1eebc- 1eef0Arabic 1eef2- 1f000Common 1f02c- 1f030Common 1f094- 1f0a0Common 1f0af-
  1f0b1Common 1f0c0- 1f0c1Common 1f0d0- 1f0d1Common 1f0f6- 1f100Common 1f1ae- 1f1e6Common
  1f200Hiragana 1f201Common 1f203- 1f210Common 1f23c- 1f240Common 1f249- 1f250Common 1f252-
  1f260Common 1f266- 1f300Common 1f6d8- 1f6dcCommon 1f6ed- 1f6f0Common 1f6fd- 1f700Common
  1f777- 1f77bCommon 1f7da- 1f7e0Common 1f7ec- 1f7f0Common 1f7f1- 1f800Common 1f80c-
  1f810Common 1f848- 1f850Common 1f85a- 1f860Common 1f888- 1f890Common 1f8ae- 1f8b0Common
  1f8b2- 1f900Common 1fa54- 1fa60Common 1fa6e- 1fa70Common 1fa7d- 1fa80Common 1fa89-
  1fa90Common 1fabe- 1fabfCommon 1fac6- 1faceCommon 1fadc- 1fae0Common 1fae9- 1faf0Common
  1faf9- 1fb00Common 1fb93- 1fb94Common 1fbcb- 1fbf0Common 1fbfa- 20000Han 2a6e0- 2a700Han
  2b73a- 2b740Han 2b81e- 2b820Han 2cea2- 2ceb0Han 2ebe1- 2f800Han 2fa1e- 30000Han 3134b-
  31350Han 323b0- e0001Common e0002- e0020Common e0080- e0100Inherited e01f0-"

/-- The two-letter general categories that a pattern may name. -/
def categoryNames : List String :=
  ["Cc", "Cf", "Co", "Cs", "Ll", "Lm", "Lo", "Lt", "Lu", "Mc", "Me", "Mn", "Nd", "Nl", "No", "Pc",
    "Pd", "Pe", "Pf", "Pi", "Po", "Ps", "Sc", "Sk", "Sm", "So", "Zl", "Zp", "Zs"]

/-- The characters that a name stands for: all, a major category, a category, or a script. -/
def named? (name : String) : Option (List (Nat × Nat)) :=
  if name == "Any" then some [(0, 0x10ffff)]
  else if ["C", "L", "M", "N", "P", "S", "Z"].contains name then
    some (select (fun category => category.toList.take 1 == name.toList) categories)
  else if categoryNames.contains name then some (select (· == name) categories)
  else if name == "-" then none
  else
    match select (· == name) scripts with
    | [] => none
    | ranges => some ranges

/-! ## Case -/

/-- The orbits that a run of pairs stands for. -/
def orbitsOfRun (run : Text.CaseRun) : List (List Nat) :=
  (List.range ((run.last - run.first) / run.step + 1)).map fun i =>
    [run.first + i * run.step, run.lower + i * run.step]

/-- The orbits of two characters, as runs. -/
def pairText : String :=
  "41-4a>61 4c-52>6c 54-5a>74 c0-c4>e0 c6-d6>e6 d8-de>f8 df>1e9e ff>178 100-12e/2>101
  132-136/2>133 139-147/2>13a 14a-176/2>14b 179-17d/2>17a 180>243 181>253 182-184/2>183
  186>254 187>188 189-18a>256 18b>18c 18e>1dd 18f>259 190>25b 191>192 193>260 194>263 195>1f6
  196>269 197>268 198>199 19a>23d 19c>26f 19d>272 19e>220 19f>275 1a0-1a4/2>1a1 1a6>280
  1a7>1a8 1a9>283 1ac>1ad 1ae>288 1af>1b0 1b1-1b2>28a 1b3-1b5/2>1b4 1b7>292 1b8>1b9 1bc>1bd
  1bf>1f7 1cd-1db/2>1ce 1de-1ee/2>1df 1f4>1f5 1f8-21e/2>1f9 222-232/2>223 23a>2c65 23b>23c
  23e>2c66 23f-240>2c7e 241>242 244>289 245>28c 246-24e/2>247 250>2c6f 251>2c6d 252>2c70
  25c>a7ab 261>a7ac 265>a78d 266>a7aa 26a>a7ae 26b>2c62 26c>a7ad 271>2c6e 27d>2c64 282>a7c5
  287>a7b1 29d>a7b2 29e>a7b0 370-372/2>371 376>377 37b-37d>3fd 37f>3f3 386>3ac 388-38a>3ad
  38c>3cc 38e-38f>3cd 391-393/2>3b1 394-396/2>3b4 397>3b7 39b-39d/2>3bb 39e-39f>3be
  3a4-3a5>3c4 3a7-3a8>3c7 3aa-3ab>3ca 3cf>3d7 3d8-3ee/2>3d9 3f2>3f9 3f7>3f8 3fa>3fb
  400-40f>450 410-411>430 413-415/2>433 416-41d>436 41f-420>43f 423-429>443 42b-42f>44b
  460>461 464-480/2>465 48a-4be/2>48b 4c0>4cf 4c1-4cd/2>4c2 4d0-52e/2>4d1 531-556>561
  10a0-10c5>2d00 10c7>2d27 10cd>2d2d 10d0-10fa>1c90 10fd-10ff>1cbd 13a0-13ef>ab70
  13f0-13f5>13f8 1d79>a77d 1d7d>2c63 1d8e>a7c6 1e00-1e5e/2>1e01 1e62-1e94/2>1e63
  1ea0-1efe/2>1ea1 1f00-1f07>1f08 1f10-1f15>1f18 1f20-1f27>1f28 1f30-1f37>1f38 1f40-1f45>1f48
  1f51-1f57/2>1f59 1f60-1f67>1f68 1f70-1f71>1fba 1f72-1f75>1fc8 1f76-1f77>1fda 1f78-1f79>1ff8
  1f7a-1f7b>1fea 1f7c-1f7d>1ffa 1f80-1f87>1f88 1f90-1f97>1f98 1fa0-1fa7>1fa8 1fb0-1fb1>1fb8
  1fb3>1fbc 1fc3>1fcc 1fd0-1fd1>1fd8 1fe0-1fe1>1fe8 1fe5>1fec 1ff3>1ffc 2132>214e
  2160-216f>2170 2183>2184 24b6-24cf>24d0 2c00-2c2f>2c30 2c60>2c61 2c67-2c6b/2>2c68 2c72>2c73
  2c75>2c76 2c80-2ce2/2>2c81 2ceb-2ced/2>2cec 2cf2>2cf3 a640-a648/2>a641 a64c-a66c/2>a64d
  a680-a69a/2>a681 a722-a72e/2>a723 a732-a76e/2>a733 a779-a77b/2>a77a a77e-a786/2>a77f
  a78b>a78c a790-a792/2>a791 a794>a7c4 a796-a7a8/2>a797 a7b3>ab53 a7b4-a7c2/2>a7b5
  a7c7-a7c9/2>a7c8 a7d0>a7d1 a7d6-a7d8/2>a7d7 a7f5>a7f6 ff21-ff3a>ff41 10400-10427>10428
  104b0-104d3>104d8 10570-1057a>10597 1057c-1058a>105a3 1058c-10592>105b3 10594-10595>105bb
  10c80-10cb2>10cc0 118a0-118bf>118c0 16e40-16e5f>16e60 1e900-1e921>1e922"

/-- Orbits of two characters. -/
def pairOrbits : List (List Nat) :=
  ((Text.words pairText.toList).map Text.caseRun).flatMap orbitsOfRun

/-- The orbits of three and four characters. -/
def largeText : String :=
  "4b-6b-212a 53-73-17f b5-39c-3bc c5-e5-212b 1c4-1c5-1c6 1c7-1c8-1c9 1ca-1cb-1cc 1f1-1f2-1f3
  345-399-3b9-1fbe 392-3b2-3d0 395-3b5-3f5 398-3b8-3d1-3f4 39a-3ba-3f0 3a0-3c0-3d6 3a1-3c1-3f1
  3a3-3c2-3c3 3a6-3c6-3d5 3a9-3c9-2126 412-432-1c80 414-434-1c81 41e-43e-1c82 421-441-1c83
  422-442-1c84-1c85 42a-44a-1c86 462-463-1c87 1c88-a64a-a64b 1e60-1e61-1e9b"

/-- Orbits of three and four characters. -/
def largeOrbits : List (List Nat) :=
  (Text.words largeText.toList).map fun entry => (Text.splitAt '-' entry).map Ranges.hexNumber

/-- Every set of characters that differ only in case. -/
def orbits : List (List Nat) := largeOrbits ++ pairOrbits

end Curation.Pattern
