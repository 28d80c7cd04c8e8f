/-!
# Layers of the normal ziggurat

The standard normal density `exp(-x^2/2)` is covered by 256 layers of equal
area: a base layer that also holds the tail beyond `r`, and 255 rectangles
stacked above it. Going down from the top, each layer's right edge `x_i`
follows from the one above by `x_i = sqrt(-2 log(v / x_(i+1) + exp(-x_(i+1)^2/2)))`,
with `x_255 = r` and `v` the common area, `r exp(-r^2/2)` plus the tail mass.
The base layer counts as one of width `v / exp(-r^2/2)`.

For each layer the tables give, as 64-bit patterns of doubles:

- the width scaled down by `2^52`, so that a 52-bit draw times it is a point
  of the layer;
- the density at its right edge, which bounds the wedge test;

and, as a whole number scaled by `2^52`, the ratio of the right edge of the
layer below to the layer's own right edge: a 52-bit draw under it gives a
point under the density with no further test. The values were worked out
with sixty significant digits and rounded once.
-/

namespace ColliderML.Ziggurat

def edgeRatios : Array UInt64 := #[
  0x000EF33D8025EF69, 0x0000000000000000, 0x000C08BE98FBC6A8, 0x000DA354FABD8141,
  0x000E51F67EC1EEE9, 0x000EB255E9D3F77C, 0x000EEF4B817ECAB7, 0x000F19470AFA44AA,
  0x000F37ED61FFCB16, 0x000F4F469561255A, 0x000F61A5E41BA396, 0x000F707A755396A4,
  0x000F7CB2EC28449B, 0x000F86F10C6357D2, 0x000F8FA6578325DD, 0x000F9724C74DD0D9,
  0x000F9DA907DBF508, 0x000FA360F581FA72, 0x000FA86FDE5B4BF8, 0x000FACF160D354DB,
  0x000FB0FB6718B90E, 0x000FB49F8D5374C5, 0x000FB7EC2366FE77, 0x000FBAECE9A1E50C,
  0x000FBDAB9D040BED, 0x000FC03060FF6C57, 0x000FC2821037A248, 0x000FC4A67AE25BD1,
  0x000FC6A2977AEE30, 0x000FC87AA92896A4, 0x000FCA325E4BDE85, 0x000FCBCCE902231A,
  0x000FCD4D12F839C4, 0x000FCEB54D8FEC98, 0x000FD007BF1DC930, 0x000FD1464DD6C4E5,
  0x000FD272A8E2F450, 0x000FD38E4FF0C91D, 0x000FD49A9990B479, 0x000FD598B8920F52,
  0x000FD689C08E99EC, 0x000FD76EA9C8E832, 0x000FD848547B08E8, 0x000FD9178BAD2C8B,
  0x000FD9DD07A7ADD2, 0x000FDA9970105E8B, 0x000FDB4D5DC02E1F, 0x000FDBF95C5BFCD0,
  0x000FDC9DEBB99A7D, 0x000FDD3B8118729D, 0x000FDDD288342F8F, 0x000FDE6364369F63,
  0x000FDEEE708D514E, 0x000FDF7401A6B42E, 0x000FDFF46599ED3E, 0x000FE06FE4BC24F1,
  0x000FE0E6C225A258, 0x000FE1593C28B84B, 0x000FE1C78CBC3F98, 0x000FE231E9DB1CA9,
  0x000FE29885DA1B91, 0x000FE2FB8FB54186, 0x000FE35B33558D4A, 0x000FE3B799D0002A,
  0x000FE410E99EAD7E, 0x000FE46746D47734, 0x000FE4BAD34C095B, 0x000FE50BAED29524,
  0x000FE559F74EBC77, 0x000FE5A5C8E41212, 0x000FE5EF3E138689, 0x000FE6366FD91077,
  0x000FE67B75C6D578, 0x000FE6BE661E11AA, 0x000FE6FF55E5F4F2, 0x000FE73E5900A701,
  0x000FE77B823E9E39, 0x000FE7B6E37070A1, 0x000FE7F08D774242, 0x000FE8289053F08C,
  0x000FE85EFB35173B, 0x000FE893DC840864, 0x000FE8C741F0CEBC, 0x000FE8F9387D4EF6,
  0x000FE929CC879B1C, 0x000FE95909D388EA, 0x000FE986FB939AA1, 0x000FE9B3AC714865,
  0x000FE9DF2694B6D5, 0x000FEA0973ABE67B, 0x000FEA329CF166A4, 0x000FEA5AAB32952C,
  0x000FEA81A6D57419, 0x000FEAA797DE1CEF, 0x000FEACC85F3D91F, 0x000FEAF07865E63C,
  0x000FEB13762FEC12, 0x000FEB3585FE2A4A, 0x000FEB56AE3162B4, 0x000FEB76F4E284F9,
  0x000FEB965FE62013, 0x000FEBB4F4CF9D7B, 0x000FEBD2B8F449CF, 0x000FEBEFB16E2E3D,
  0x000FEC0BE31EBDE8, 0x000FEC2752B15A14, 0x000FEC42049DAFD3, 0x000FEC5BFD29F196,
  0x000FEC75406CEEF4, 0x000FEC8DD2500CB4, 0x000FECA5B6911F10, 0x000FECBCF0C427FE,
  0x000FECD38454FB15, 0x000FECE97488C8B3, 0x000FECFEC47F91B7, 0x000FED1377358528,
  0x000FED278F844903, 0x000FED3B10242F4C, 0x000FED4DFBAD586D, 0x000FED605498C3DC,
  0x000FED721D414FE8, 0x000FED8357E4A981, 0x000FED9406A42CC8, 0x000FEDA42B85B704,
  0x000FEDB3C8746AB3, 0x000FEDC2DF416652, 0x000FEDD171A46E52, 0x000FEDDF813C8AD2,
  0x000FEDED0F90997F, 0x000FEDFA1E0FD413, 0x000FEE06AE124BC4, 0x000FEE12C0D95A06,
  0x000FEE1E579006DF, 0x000FEE29734B6524, 0x000FEE34150AE4BB, 0x000FEE3E3DB89B3C,
  0x000FEE47EE2982F3, 0x000FEE51271DB086, 0x000FEE59E9407F41, 0x000FEE623528B42D,
  0x000FEE6A0B5897F0, 0x000FEE716C3E077A, 0x000FEE7858327B81, 0x000FEE7ECF7B06B9,
  0x000FEE84D2484AB2, 0x000FEE8A60B66342, 0x000FEE8F7ACCC851, 0x000FEE94207E25DA,
  0x000FEE9851A829EB, 0x000FEE9C0E13485B, 0x000FEE9F557273F3, 0x000FEEA22762CCAE,
  0x000FEEA4836B42AB, 0x000FEEA668FC2D71, 0x000FEEA7D76ED6F9, 0x000FEEA8CE04FA0A,
  0x000FEEA94BE8333B, 0x000FEEA95029640F, 0x000FEEA8D9C0075D, 0x000FEEA7E7897653,
  0x000FEEA678481D24, 0x000FEEA48AA29E82, 0x000FEEA21D22E4D9, 0x000FEE9F2E352024,
  0x000FEE9BBC26AF2E, 0x000FEE97C524F2E3, 0x000FEE93473C0A39, 0x000FEE8E40557515,
  0x000FEE88AE369C79, 0x000FEE828E7F3DFC, 0x000FEE7BDEA7B887, 0x000FEE749BFF37FF,
  0x000FEE6CC3A9BD5E, 0x000FEE64529E007F, 0x000FEE5B45A32888, 0x000FEE51994E57B5,
  0x000FEE474A0006CE, 0x000FEE3C53E12C4F, 0x000FEE30B2E02AD7, 0x000FEE2462AD8204,
  0x000FEE175EB83C59, 0x000FEE09A22A1447, 0x000FEDFB27E349CB, 0x000FEDEBEA76216C,
  0x000FEDDBE422047D, 0x000FEDCB0ECE39D3, 0x000FEDB964042CF3, 0x000FEDA6DCE938C9,
  0x000FED937237E98C, 0x000FED7F1C38A836, 0x000FED69D2B9C02A, 0x000FED538D06ADFF,
  0x000FED3C41DEA422, 0x000FED23E76A2FD7, 0x000FED0A732FE643, 0x000FECEFDA07FE33,
  0x000FECD4100EB7B8, 0x000FECB708956EB4, 0x000FEC98B61230C0, 0x000FEC790A0DA978,
  0x000FEC57F50F31FD, 0x000FEC356686C961, 0x000FEC114CB4B334, 0x000FEBEB948E6FD0,
  0x000FEBC429A0B691, 0x000FEB9AF5EE0CDC, 0x000FEB6FE1C98542, 0x000FEB42D3AD1F9E,
  0x000FEB13B00B2D4B, 0x000FEAE2591A02E8, 0x000FEAAEAE992256, 0x000FEA788D8EE326,
  0x000FEA3FCFFD73E5, 0x000FEA044C8DD9F6, 0x000FE9C5D62F563A, 0x000FE9843BA947A3,
  0x000FE93F471D4728, 0x000FE8F6BD76C5D6, 0x000FE8AA5DC4E8E6, 0x000FE859E07AB1EA,
  0x000FE804F690A93F, 0x000FE7AB488233BF, 0x000FE74C751F6AA5, 0x000FE6E8102AA201,
  0x000FE67DA0B6ABD8, 0x000FE60C9F38307D, 0x000FE5947338F742, 0x000FE51470977280,
  0x000FE48BD436F457, 0x000FE3F9BFFD1E37, 0x000FE35D35EEB19B, 0x000FE2B5122FE4FD,
  0x000FE20003995557, 0x000FE13C82788314, 0x000FE068C4EE67AF, 0x000FDF82B02B71AA,
  0x000FDE87C57EFEAA, 0x000FDD7509C63BFD, 0x000FDC46E529BF12, 0x000FDAF8F82E0282,
  0x000FD985E1B2BA75, 0x000FD7E6EF48CF04, 0x000FD613ADBD650B, 0x000FD40149E2F011,
  0x000FD1A1A7B4C7AC, 0x000FCEE204761F9E, 0x000FCBA8D85E11B1, 0x000FC7D26ECD2D22,
  0x000FC32B2F1E22EC, 0x000FBD6581C0B839, 0x000FB606C4005433, 0x000FAC40582A2873,
  0x000F9E971E014597, 0x000F89FA48A41DFB, 0x000F66C5F7F0302C, 0x000F1A5A4B331C4A]

def widthBits : Array UInt64 := #[
  0x3CCF493B7815D979, 0x3C8B8D0BE3FDF6C6, 0x3C9250AF3C2C5BB3, 0x3C957CB938443B63,
  0x3C9801FCE82FA70F, 0x3C9A230C2E4CD0C1, 0x3C9C004D2F3861FE, 0x3C9DAC2F5A747279,
  0x3C9F32482D4CD5C9, 0x3CA04D32278EBBB1, 0x3CA0F5053B025D46, 0x3CA192A69741367A,
  0x3CA227A28F7A1AF7, 0x3CA2B52E3863D882, 0x3CA33C3FC05791F7, 0x3CA3BD9EC1A2B132,
  0x3CA439EF8DFF9B58, 0x3CA4B1BB363DFEAB, 0x3CA52575621AD377, 0x3CA59580A707CE9A,
  0x3CA60231CFD97EEF, 0x3CA66BD261A37C42, 0x3CA6D2A292000575, 0x3CA736DAD346F8AC,
  0x3CA798AD10B32A7C, 0x3CA7F845AD46F547, 0x3CA855CC53430A7B, 0x3CA8B1649E7B769D,
  0x3CA90B2EA94ECF9D, 0x3CA96347822C1EEF, 0x3CA9B9C98E38C54B, 0x3CAA0ECCDCA4A730,
  0x3CAA62676D77CD5D, 0x3CAAB4AD6E101635, 0x3CAB05B16D136CA0, 0x3CAB558487427A2D,
  0x3CABA4368E529F3F, 0x3CABF1D62ABF8237, 0x3CAC3E70F9594EF7, 0x3CAC8A13A5323B65,
  0x3CACD4C9FE72268E, 0x3CAD1E9F0E80B74A, 0x3CAD679D29E41F13, 0x3CADAFCE0023B8C6,
  0x3CADF73AA9F17655, 0x3CAE3DEBB5D2EE01, 0x3CAE83E9337A6F03, 0x3CAEC93ABDF982D1,
  0x3CAF0DE784F06229, 0x3CAF51F654D8F68B, 0x3CAF956D9E87D7B1, 0x3CAFD8537DFA2EB0,
  0x3CB00D56E04234EE, 0x3CB02E40F5398F9C, 0x3CB04EEA9E16A5FF, 0x3CB06F565B72A013,
  0x3CB08F869071F40E, 0x3CB0AF7D84BC6116, 0x3CB0CF3D664BCC82, 0x3CB0EEC84B16086E,
  0x3CB10E20329515F0, 0x3CB12D4707310FC1, 0x3CB14C3E9F8E9143, 0x3CB16B08BFC42020,
  0x3CB189A71A78DA36, 0x3CB1A81B51EE6D8A, 0x3CB1C666F8F82ACE, 0x3CB1E48B93E0D430,
  0x3CB2028A9940A0A2, 0x3CB2206572C4C6EB, 0x3CB23E1D7DE9C321, 0x3CB25BB40CA96BFE,
  0x3CB2792A661DD381, 0x3CB29681C719D71D, 0x3CB2B3BB62B82EDB, 0x3CB2D0D862E1B855,
  0x3CB2EDD9E8CBA990, 0x3CB30AC10D6E48D9, 0x3CB3278EE1F4B933, 0x3CB3444470265EA4,
  0x3CB360E2BACA52D7, 0x3CB37D6ABE05586C, 0x3CB399DD6FB2B266, 0x3CB3B63BBFB83D05,
  0x3CB3D28698561DE3, 0x3CB3EEBEDE725A85, 0x3CB40AE571E09E76, 0x3CB426FB2DA6745E,
  0x3CB44300E83C30A5, 0x3CB45EF773CAC75E, 0x3CB47ADF9E66C337, 0x3CB496BA32488F30,
  0x3CB4B287F602415D, 0x3CB4CE49ACB311DC, 0x3CB4EA001638A605, 0x3CB505ABEF5E5563,
  0x3CB5214DF20A8B5B, 0x3CB53CE6D56A6650, 0x3CB558774E1BB2C8, 0x3CB574000E555F79,
  0x3CB58F81C60E8515, 0x3CB5AAFD23241B5A, 0x3CB5C672D17D733E, 0x3CB5E1E37B2F8CD4,
  0x3CB5FD4FC89F5E39, 0x3CB618B860A31FC4, 0x3CB6341DE8A2B0A3, 0x3CB64F8104B7260D,
  0x3CB66AE257C99674, 0x3CB6864283B13138, 0x3CB6A1A22950B2B3, 0x3CB6BD01E8B343BD,
  0x3CB6D8626128D354, 0x3CB6F3C43161F855, 0x3CB70F27F78B68EC, 0x3CB72A8E516914C7,
  0x3CB745F7DC70EEDC, 0x3CB7616535E57320, 0x3CB77CD6FAEFF44A, 0x3CB7984DC8BABD94,
  0x3CB7B3CA3C8B140A, 0x3CB7CF4CF3DB22FC, 0x3CB7EAD68C73DEE7, 0x3CB80667A486EA1F,
  0x3CB82200DAC88676, 0x3CB83DA2CE899F15, 0x3CB8594E1FD1F5BE, 0x3CB875036F7A7EC6,
  0x3CB890C35F47F72E, 0x3CB8AC8E9205C044, 0x3CB8C865ABA10C9D, 0x3CB8E44951446A28,
  0x3CB9003A2973B590, 0x3CB91C38DC288348, 0x3CB9384612EF0AFD, 0x3CB954627903A28B,
  0x3CB9708EBB70D5EF, 0x3CB98CCB892E2A33, 0x3CB9A919933F99C0, 0x3CB9C5798CD5D92D,
  0x3CB9E1EC2B6F7414, 0x3CB9FE7226FAD24D, 0x3CBA1B0C39F93695, 0x3CBA37BB21A2C85E,
  0x3CBA547F9E0BBB8A, 0x3CBA715A724AA9A7, 0x3CBA8E4C64A0313F, 0x3CBAAB563E9FF10A,
  0x3CBAC878CD5AF5CF, 0x3CBAE5B4E18BB338, 0x3CBB030B4FC3A11B, 0x3CBB207CF09A985C,
  0x3CBB3E0AA0E00C01, 0x3CBB5BB541CE3D04, 0x3CBB797DB93F8928, 0x3CBB9764F1E5F73C,
  0x3CBBB56BDB85256E, 0x3CBBD3936B2EC0A2, 0x3CBBF1DC9B81AE82, 0x3CBC10486CEC16A0,
  0x3CBC2ED7E5F07A2D, 0x3CBC4D8C136E0D1D, 0x3CBC6C6608EC8705, 0x3CBC8B66E0EBA617,
  0x3CBCAA8FBD36A2AB, 0x3CBCC9E1C73BD68F, 0x3CBCE95E3068E037, 0x3CBD0906328B8F6E,
  0x3CBD28DB1037EF20, 0x3CBD48DE1533C647, 0x3CBD691096E7F122, 0x3CBD8973F4D7FBA4,
  0x3CBDAA0999206E6E, 0x3CBDCAD2F8FC490B, 0x3CBDEBD195522E34, 0x3CBE0D06FB49D219,
  0x3CBE2E74C4EA46F3, 0x3CBE501C99C1D186, 0x3CBE72002F97FE23, 0x3CBE94214B2ABF09,
  0x3CBEB681C0F76F08, 0x3CBED9237610A739, 0x3CBEFC086101ECA9, 0x3CBF1F328AC25320,
  0x3CBF42A40FB74D6D, 0x3CBF665F20C90168, 0x3CBF8A6604899782, 0x3CBFAEBB187122BF,
  0x3CBFD360D22FE785, 0x3CBFF859C118F60B, 0x3CC00ED447D3A075, 0x3CC021A8028FC947,
  0x3CC034A983A902AB, 0x3CC047DA4E3EF5C7, 0x3CC05B3BF6ADB37E, 0x3CC06ED023A72668,
  0x3CC082988F632E17, 0x3CC0969708E8A255, 0x3CC0AACD7571C0C5, 0x3CC0BF3DD1EED449,
  0x3CC0D3EA34AA3D32, 0x3CC0E8D4CF116594, 0x3CC0FDFFEFA69FB8, 0x3CC1136E04207043,
  0x3CC129219BBB5D37, 0x3CC13F1D69C4096F, 0x3CC1556448602E3D, 0x3CC16BF93B9DEEF4,
  0x3CC182DF74D21262, 0x3CC19A1A564EEBAD, 0x3CC1B1AD777F2F8F, 0x3CC1C99CA971A695,
  0x3CC1E1EBFBE4AE39, 0x3CC1FA9FC2E2D901, 0x3CC213BC9D04CC82, 0x3CC22D477A6FD3EF,
  0x3CC24745A4AC9C24, 0x3CC261BCC77658E0, 0x3CC27CB2FAA8592E, 0x3CC2982ECD770E78,
  0x3CC2B437532A0A52, 0x3CC2D0D43196DB97, 0x3CC2EE0DB1A978F5, 0x3CC30BECD256AEEE,
  0x3CC32A7B5E68A4A3, 0x3CC349C405AE12A3, 0x3CC369D27A33A840, 0x3CC38AB39256410A,
  0x3CC3AC7570AE88FA, 0x3CC3CF27B31704A6, 0x3CC3F2DBAA60F475, 0x3CC417A49CB9E5DA,
  0x3CC43D9815545E94, 0x3CC464CE44A73A16, 0x3CC48D62759C43BC, 0x3CC4B7739D6B5A28,
  0x3CC4E3250DCD8903, 0x3CC5109F53E9AC42, 0x3CC54011523A7E43, 0x3CC571B1A94AE41C,
  0x3CC5A5C08B718DD9, 0x3CC5DC8A243AD0FE, 0x3CC61669CF861E4B, 0x3CC653CE7B006AE9,
  0x3CC69540BE9FE5C2, 0x3CC6DB6B8D09E231, 0x3CC72728F05F7A33, 0x3CC7799556090672,
  0x3CC7D42DF4D6CE8B, 0x3CC839030529F233, 0x3CC8AB0FBFAA7C13, 0x3CC92EE0946F4495,
  0x3CC9CBEE014057AA, 0x3CCA8FDC78947759, 0x3CCB981F3878FDB0, 0x3CCD3BB48209AD32]

def heightBits : Array UInt64 := #[
  0x3FF0000000000000, 0x3FEF446AC979F087, 0x3FEEB7545B6CA915, 0x3FEE3F11E027F077,
  0x3FEDD36FA704DE95, 0x3FED70920657BCF1, 0x3FED144978A119DB, 0x3FECBD33A8A72DEA,
  0x3FEC6A5ECEA9787E, 0x3FEC1B1CD9EEBAE8, 0x3FEBCEEB4EE1DC80, 0x3FEB85653A8FF551,
  0x3FEB3E3A8234DD0F, 0x3FEAF92A3F6CE8A1, 0x3FEAB5FEF17A2503, 0x3FEA748BD550C9E0,
  0x3FEA34AAFDF5AF0D, 0x3FE9F63BEE651FD6, 0x3FE9B9228D24067F, 0x3FE97D4657617ABF,
  0x3FE94291C21B7A44, 0x3FE908F1BD31714C, 0x3FE8D0554FE60AA5, 0x3FE898AD48BADEFF,
  0x3FE861EBFC37BCA9, 0x3FE82C050F56CF6C, 0x3FE7F6ED4B20E2C9, 0x3FE7C29A779C6856,
  0x3FE78F033CA0B0D2, 0x3FE75C1F0770D853, 0x3FE729E5F43F6D0F, 0x3FE6F850BAEA7AEC,
  0x3FE6C7589E635A86, 0x3FE696F75E513B27, 0x3FE667272A92E320, 0x3FE637E298550C15,
  0x3FE6092498802662, 0x3FE5DAE86F4AFF67, 0x3FE5AD29ACC85C86, 0x3FE57FE4264C8D8D,
  0x3FE55313F08D9E44, 0x3FE526B55A656CD4, 0x3FE4FAC4E820B665, 0x3FE4CF3F4F494EBE,
  0x3FE4A42172DC5276, 0x3FE479685FDF5010, 0x3FE44F114A493677, 0x3FE425198A355FE1,
  0x3FE3FB7E99585B80, 0x3FE3D23E10AF31A1, 0x3FE3A955A662CD0C, 0x3FE380C32BDA00D3,
  0x3FE358848BF550E7, 0x3FE33097C9703A32, 0x3FE308FAFD6438EB, 0x3FE2E1AC55EA3BEA,
  0x3FE2BAAA14D79546, 0x3FE293F28E93CD12, 0x3FE26D84290504E9, 0x3FE2475D5A90DB80,
  0x3FE2217CA92FF7EF, 0x3FE1FBE0A992961D, 0x3FE1D687FE549967, 0x3FE1B171573FD10E,
  0x3FE18C9B709B3C4D, 0x3FE16805128639D7, 0x3FE143AD105EA998, 0x3FE11F9248311F35,
  0x3FE0FBB3A232590F, 0x3FE0D8101041429D, 0x3FE0B4A68D70D9AB, 0x3FE091761D995D7E,
  0x3FE06E7DCCF03C33, 0x3FE04BBCAFA63F2C, 0x3FE02931E18B8229, 0x3FE006DC85B8CAC2,
  0x3FDFC9778C7BBD9C, 0x3FDF859DA7A900C5, 0x3FDF4229CB2F7AED, 0x3FDEFF1A717E8F8F,
  0x3FDEBC6E20BD1F50, 0x3FDE7A236A4EC3C0, 0x3FDE3838EA5F9B7F, 0x3FDDF6AD47763A04,
  0x3FDDB57F320B56AB, 0x3FDD74AD6426DE2E, 0x3FDD3436A102107C, 0x3FDCF419B4AE5B6A,
  0x3FDCB45573C0A844, 0x3FDC74E8BB00D7C4, 0x3FDC35D26F1D2CB6, 0x3FDBF7117C616A15,
  0x3FDBB8A4D6716D90, 0x3FDB7A8B7807131A, 0x3FDB3CC462B331C8, 0x3FDAFF4E9EA18550,
  0x3FDAC2293A5F5A9B, 0x3FDA85534AA4D87E, 0x3FDA48CBEA20C04C, 0x3FDA0C923946843C,
  0x3FD9D0A55E1E93DD, 0x3FD995048418C0C4, 0x3FD959AEDBE09F90, 0x3FD91EA39B33CB14,
  0x3FD8E3E1FCB9F113, 0x3FD8A9693FDE9185, 0x3FD86F38A8AC5AB3, 0x3FD8354F7FAA0DD6,
  0x3FD7FBAD11B8D90E, 0x3FD7C250AFF414AC, 0x3FD78939AF9252E7, 0x3FD7506769C7B1E9,
  0x3FD717D93BA96148, 0x3FD6DF8E86124CA7, 0x3FD6A786AD88DE1F, 0x3FD66FC11A25CBE0,
  0x3FD6383D377BE513, 0x3FD600FA7480D2C7, 0x3FD5C9F84376C242, 0x3FD5933619D6EEBC,
  0x3FD55CB3703D00FD, 0x3FD5266FC2533BEB, 0x3FD4F06A8EBF6D91, 0x3FD4BAA357109CA2,
  0x3FD485199FAD6AD4, 0x3FD44FCCEFC324FD, 0x3FD41ABCD1357A18, 0x3FD3E5E8D08ED2D9,
  0x3FD3B1507CF143AC, 0x3FD37CF368081377, 0x3FD348D125F9D19C, 0x3FD314E94D5AF62D,
  0x3FD2E13B77210764, 0x3FD2ADC73E963FDA, 0x3FD27A8C414DB11B, 0x3FD2478A1F17DE87,
  0x3FD214C079F7CC9C, 0x3FD1E22EF6188113, 0x3FD1AFD539C2F04D, 0x3FD17DB2ED5454E6,
  0x3FD14BC7BB34EE63, 0x3FD11A134FCF241E, 0x3FD0E895598709BE, 0x3FD0B74D88B242D4,
  0x3FD0863B8F904331, 0x3FD0555F2242E9D5, 0x3FD024B7F6C7747A, 0x3FCFE88B89DF93BD,
  0x3FCF88108CB83230, 0x3FCF27FE6CE998CD, 0x3FCEC854A4C99C3F, 0x3FCE6912B2283CDA,
  0x3FCE0A3816457181, 0x3FCDABC455C79007, 0x3FCD4DB6F8B2514D, 0x3FCCF00F8A5E6FCB,
  0x3FCC92CD9971DF53, 0x3FCC35F0B7D89D47, 0x3FCBD9787ABE18A3, 0x3FCB7D647A8731AB,
  0x3FCB21B452CCD13B, 0x3FCAC667A2571806, 0x3FCA6B7E0B19267D, 0x3FCA10F7322D7E3D,
  0x3FC9B6D2BFD2FE5A, 0x3FC95D105F6A7C28, 0x3FC903AFBF74FA69, 0x3FC8AAB09192815B,
  0x3FC852128A819A39, 0x3FC7F9D5621F7175, 0x3FC7A1F8D368A324, 0x3FC74A7C9C7AB5A9,
  0x3FC6F3607E96471A, 0x3FC69CA43E21F262, 0x3FC64647A2ADF1A4, 0x3FC5F04A76F88401,
  0x3FC59AAC88F31D75, 0x3FC5456DA9C8683B, 0x3FC4F08DADE31FC6, 0x3FC49C0C6CF5CE31,
  0x3FC447E9C20375D7, 0x3FC3F4258B6931B0, 0x3FC3A0BFAAE8D7EE, 0x3FC34DB805B4AB89,
  0x3FC2FB0E847C2A65, 0x3FC2A8C3137A071B, 0x3FC256D5A2835EB6, 0x3FC2054625183C35,
  0x3FC1B41492757D42, 0x3FC16340E5A82D63, 0x3FC112CB1DA26EB9, 0x3FC0C2B33D5209B9,
  0x3FC072F94BB8BF84, 0x3FC0239D54067D2A, 0x3FBFA93ECB6B222C, 0x3FBF0BFF29520E16,
  0x3FBE6F7BF29AA547, 0x3FBDD3B56176E88C, 0x3FBD38ABB9BD91DD, 0x3FBC9E5F493B7405,
  0x3FBC04D0680B100B, 0x3FBB6BFF78F2E229, 0x3FBAD3ECE9CAF628, 0x3FBA3C9933EA627B,
  0x3FB9A604DC9D5B0B, 0x3FB9103075A4A09F, 0x3FB87B1C9DBF2846, 0x3FB7E6CA013EEFCC,
  0x3FB753395AAA116E, 0x3FB6C06B73694A46, 0x3FB62E6124854D11, 0x3FB59D1B5774669E,
  0x3FB50C9B06FA2BAC, 0x3FB47CE1401B2213, 0x3FB3EDEF23269A82, 0x3FB35FC5E4D93E6A,
  0x3FB2D266CF9B310E, 0x3FB245D344DD0D90, 0x3FB1BA0CBE97897F, 0x3FB12F14D0F2179E,
  0x3FB0A4ED2C159622, 0x3FB01B979E30E496, 0x3FAF262C2B6C6E34, 0x3FAE16D547B25186,
  0x3FAD092EFEADF163, 0x3FABFD3E0F282A2D, 0x3FAAF30790385F70, 0x3FA9EA90F9295562,
  0x3FA8E3E02A68B5A9, 0x3FA7DEFB77AF271D, 0x3FA6DBE9B398D063, 0x3FA5DAB23CF2ADD2,
  0x3FA4DB5D0E11275D, 0x3FA3DDF2CE98EEC7, 0x3FA2E27CE83DF495, 0x3FA1E9059F1F6AB7,
  0x3FA0F1982E96800A, 0x3F9FF881D718A5B6, 0x3F9E121ADB828C6A, 0x3F9C301983CD0913,
  0x3F9A529F4E22EBF6, 0x3F9879D1B600C10C, 0x3F96A5DAF40BBF88, 0x3F94D6EAF2FBB068,
  0x3F930D388DAB5E1B, 0x3F9149033460301B, 0x3F8F152A4F72DD55, 0x3F8BA48D274F8FB5,
  0x3F8841040D8DA47F, 0x3F84EB96421ACFE9, 0x3F81A59229952F96, 0x3F7CE160F8EC683F,
  0x3F769EA8D90CB866, 0x3F708A1F03B0B207, 0x3F655F9F43C1B073, 0x3F54A605B6B9F714]

def width (i : Nat) : Float := Float.ofBits (widthBits.getD i 0)

def height (i : Nat) : Float := Float.ofBits (heightBits.getD i 0)

def edgeRatio (i : Nat) : UInt64 := edgeRatios.getD i 0

def tailStart : Float := 3.6541528853610088

def tailScale : Float := 0.27366123732975828

end ColliderML.Ziggurat
