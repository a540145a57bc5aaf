import RealtimeClient.Text.Table

/-!
# Characters that are shown as they are

All characters but those without a form of their own: control and format characters, blanks other
than the space, marks that combine with what is before them, letters that only fill a place, and
codes without a character.

* `Text.isShown` — the property.
-/

namespace RealtimeClient.Text

/-- One row for each range of characters: its first character in hexadecimal digits, then `y` if the
characters up to the next row are shown as they are and `n` if not. -/
def shownRows : String := "
0n 20y 7Fn A1y ADn AEy 300n 370y 378n 37Ay 380n 384y 38Bn 38Cy 38Dn 38Ey 3A2n 3A3y 483n 48Ay 530n
531y 557n 559y 58Bn 58Dy 590n 5BEy 5BFn 5C0y 5C1n 5C3y 5C4n 5C6y 5C7n 5D0y 5EBn 5EFy 5F5n 606y
610n 61By 61Cn 61Dy 64Bn 660y 670n 671y 6D6n 6DEy 6DFn 6E5y 6E7n 6E9y 6EAn 6EEy 70En 710y 711n
712y 730n 74Dy 7A6n 7B1y 7B2n 7C0y 7EBn 7F4y 7FBn 7FEy 816n 81Ay 81Bn 824y 825n 828y 829n 830y
83Fn 840y 859n 85Ey 85Fn 860y 86Bn 870y 890n 8A0y 8CAn 903y 93An 93By 93Cn 93Dy 941n 949y 94Dn
94Ey 951n 958y 962n 964y 981n 982y 984n 985y 98Dn 98Fy 991n 993y 9A9n 9AAy 9B1n 9B2y 9B3n 9B6y
9BAn 9BDy 9BEn 9BFy 9C1n 9C7y 9C9n 9CBy 9CDn 9CEy 9CFn 9DCy 9DEn 9DFy 9E2n 9E6y 9FEn A03y A04n
A05y A0Bn A0Fy A11n A13y A29n A2Ay A31n A32y A34n A35y A37n A38y A3An A3Ey A41n A59y A5Dn A5Ey
A5Fn A66y A70n A72y A75n A76y A77n A83y A84n A85y A8En A8Fy A92n A93y AA9n AAAy AB1n AB2y AB4n
AB5y ABAn ABDy AC1n AC9y ACAn ACBy ACDn AD0y AD1n AE0y AE2n AE6y AF2n AF9y AFAn B02y B04n B05y
B0Dn B0Fy B11n B13y B29n B2Ay B31n B32y B34n B35y B3An B3Dy B3En B40y B41n B47y B49n B4By B4Dn
B5Cy B5En B5Fy B62n B66y B78n B83y B84n B85y B8Bn B8Ey B91n B92y B96n B99y B9Bn B9Cy B9Dn B9Ey
BA0n BA3y BA5n BA8y BABn BAEy BBAn BBFy BC0n BC1y BC3n BC6y BC9n BCAy BCDn BD0y BD1n BE6y BFBn
C01y C04n C05y C0Dn C0Ey C11n C12y C29n C2Ay C3An C3Dy C3En C41y C45n C58y C5Bn C5Cy C5En C60y
C62n C66y C70n C77y C81n C82y C8Dn C8Ey C91n C92y CA9n CAAy CB4n CB5y CBAn CBDy CBFn CC1y CC2n
CC3y CC5n CDCy CDFn CE0y CE2n CE6y CF0n CF1y CF4n D02y D0Dn D0Ey D11n D12y D3Bn D3Dy D3En D3Fy
D41n D46y D49n D4Ay D4Dn D4Ey D50n D54y D57n D58y D62n D66y D80n D82y D84n D85y D97n D9Ay DB2n
DB3y DBCn DBDy DBEn DC0y DC7n DD0y DD2n DD8y DDFn DE6y DF0n DF2y DF5n E01y E31n E32y E34n E3Fy
E47n E4Fy E5Cn E81y E83n E84y E85n E86y E8Bn E8Cy EA4n EA5y EA6n EA7y EB1n EB2y EB4n EBDy EBEn
EC0y EC5n EC6y EC7n ED0y EDAn EDCy EE0n F00y F18n F1Ay F35n F36y F37n F38y F39n F3Ay F48n F49y
F6Dn F7Fy F80n F85y F86n F88y F8Dn FBEy FC6n FC7y FCDn FCEy FDBn 1000y 102Dn 1031y 1032n 1038y
1039n 103By 103Dn 103Fy 1058n 105Ay 105En 1061y 1071n 1075y 1082n 1083y 1085n 1087y 108Dn 108Ey
109Dn 109Ey 10C6n 10C7y 10C8n 10CDy 10CEn 10D0y 115Fn 1161y 1249n 124Ay 124En 1250y 1257n 1258y
1259n 125Ay 125En 1260y 1289n 128Ay 128En 1290y 12B1n 12B2y 12B6n 12B8y 12BFn 12C0y 12C1n 12C2y
12C6n 12C8y 12D7n 12D8y 1311n 1312y 1316n 1318y 135Bn 1360y 137Dn 1380y 139An 13A0y 13F6n 13F8y
13FEn 1400y 1680n 1681y 169Dn 16A0y 16F9n 1700y 1712n 171Fy 1732n 1735y 1737n 1740y 1752n 1760y
176Dn 176Ey 1771n 1780y 17B4n 17B6y 17B7n 17BEy 17C6n 17C7y 17C9n 17D4y 17DDn 17E0y 17EAn 17F0y
17FAn 1800y 180Bn 1810y 181An 1820y 1879n 1880y 1885n 1887y 18A9n 18AAy 18ABn 18B0y 18F6n 1900y
191Fn 1923y 1927n 1929y 192Cn 1930y 1932n 1933y 1939n 1940y 1941n 1944y 196En 1970y 1975n 1980y
19ACn 19B0y 19CAn 19D0y 19DBn 19DEy 1A17n 1A19y 1A1Bn 1A1Ey 1A56n 1A57y 1A58n 1A61y 1A62n 1A63y
1A65n 1A6Dy 1A73n 1A80y 1A8An 1A90y 1A9An 1AA0y 1AAEn 1B04y 1B34n 1B3Ey 1B42n 1B45y 1B4Dn 1B4Ey
1B6Bn 1B74y 1B80n 1B82y 1BA2n 1BA6y 1BA8n 1BAEy 1BE6n 1BE7y 1BE8n 1BEAy 1BEDn 1BEEy 1BEFn 1BFCy
1C2Cn 1C34y 1C36n 1C3By 1C4An 1C4Dy 1C8Bn 1C90y 1CBBn 1CBDy 1CC8n 1CD3y 1CD4n 1CE1y 1CE2n 1CE9y
1CEDn 1CEEy 1CF4n 1CF5y 1CF8n 1CFAy 1CFBn 1D00y 1DC0n 1E00y 1F16n 1F18y 1F1En 1F20y 1F46n 1F48y
1F4En 1F50y 1F58n 1F59y 1F5An 1F5By 1F5Cn 1F5Dy 1F5En 1F5Fy 1F7En 1F80y 1FB5n 1FB6y 1FC5n 1FC6y
1FD4n 1FD6y 1FDCn 1FDDy 1FF0n 1FF2y 1FF5n 1FF6y 1FFFn 2010y 2028n 2030y 205Fn 2070y 2072n 2074y
208Fn 2090y 209Dn 20A0y 20C2n 2100y 218Cn 2190y 242An 2440y 244Bn 2460y 2B74n 2B76y 2CEFn 2CF2y
2CF4n 2CF9y 2D26n 2D27y 2D28n 2D2Dy 2D2En 2D30y 2D68n 2D6Fy 2D71n 2D80y 2D97n 2DA0y 2DA7n 2DA8y
2DAFn 2DB0y 2DB7n 2DB8y 2DBFn 2DC0y 2DC7n 2DC8y 2DCFn 2DD0y 2DD7n 2DD8y 2DDFn 2E00y 2E5En 2E80y
2E9An 2E9By 2EF4n 2F00y 2FD6n 2FF0y 3000n 3001y 302An 3030y 3040n 3041y 3097n 309By 3100n 3105y
3130n 3131y 3164n 3165y 318Fn 3190y 31E6n 31EFy 321Fn 3220y A48Dn A490y A4C7n A4D0y A62Cn A640y
A66Fn A673y A674n A67Ey A69En A6A0y A6F0n A6F2y A6F8n A700y A7DDn A7F1y A802n A803y A806n A807y
A80Bn A80Cy A825n A827y A82Cn A830y A83An A840y A878n A880y A8C4n A8CEy A8DAn A8F2y A8FFn A900y
A926n A92Ey A947n A952y A953n A95Fy A97Dn A983y A9B3n A9B4y A9B6n A9BAy A9BCn A9BEy A9C0n A9C1y
A9CEn A9CFy A9DAn A9DEy A9E5n A9E6y A9FFn AA00y AA29n AA2Fy AA31n AA33y AA35n AA40y AA43n AA44y
AA4Cn AA4Dy AA4En AA50y AA5An AA5Cy AA7Cn AA7Dy AAB0n AAB1y AAB2n AAB5y AAB7n AAB9y AABEn AAC0y
AAC1n AAC2y AAC3n AADBy AAECn AAEEy AAF6n AB01y AB07n AB09y AB0Fn AB11y AB17n AB20y AB27n AB28y
AB2Fn AB30y AB6Cn AB70y ABE5n ABE6y ABE8n ABE9y ABEDn ABF0y ABFAn AC00y D7A4n D7B0y D7C7n D7CBy
D7FCn F900y FA6En FA70y FADAn FB00y FB07n FB13y FB18n FB1Dy FB1En FB1Fy FB37n FB38y FB3Dn FB3Ey
FB3Fn FB40y FB42n FB43y FB45n FB46y FDD0n FDF0y FE00n FE10y FE1An FE30y FE53n FE54y FE67n FE68y
FE6Cn FE70y FE75n FE76y FEFDn FF01y FFA0n FFA1y FFBFn FFC2y FFC8n FFCAy FFD0n FFD2y FFD8n FFDAy
FFDDn FFE0y FFE7n FFE8y FFEFn FFFCy FFFEn 10000y 1000Cn 1000Dy 10027n 10028y 1003Bn 1003Cy 1003En
1003Fy 1004En 10050y 1005En 10080y 100FBn 10100y 10103n 10107y 10134n 10137y 1018Fn 10190y 1019Dn
101A0y 101A1n 101D0y 101FDn 10280y 1029Dn 102A0y 102D1n 102E1y 102FCn 10300y 10324n 1032Dy 1034Bn
10350y 10376n 10380y 1039En 1039Fy 103C4n 103C8y 103D6n 10400y 1049En 104A0y 104AAn 104B0y 104D4n
104D8y 104FCn 10500y 10528n 10530y 10564n 1056Fy 1057Bn 1057Cy 1058Bn 1058Cy 10593n 10594y 10596n
10597y 105A2n 105A3y 105B2n 105B3y 105BAn 105BBy 105BDn 105C0y 105F4n 10600y 10737n 10740y 10756n
10760y 10768n 10780y 10786n 10787y 107B1n 107B2y 107BBn 10800y 10806n 10808y 10809n 1080Ay 10836n
10837y 10839n 1083Cy 1083Dn 1083Fy 10856n 10857y 1089Fn 108A7y 108B0n 108E0y 108F3n 108F4y 108F6n
108FBy 1091Cn 1091Fy 1093An 1093Fy 1095An 10980y 109B8n 109BCy 109D0n 109D2y 10A01n 10A10y 10A14n
10A15y 10A18n 10A19y 10A36n 10A40y 10A49n 10A50y 10A59n 10A60y 10AA0n 10AC0y 10AE5n 10AEBy 10AF7n
10B00y 10B36n 10B39y 10B56n 10B58y 10B73n 10B78y 10B92n 10B99y 10B9Dn 10BA9y 10BB0n 10C00y 10C49n
10C80y 10CB3n 10CC0y 10CF3n 10CFAy 10D24n 10D30y 10D3An 10D40y 10D66n 10D6Ey 10D86n 10D8Ey 10D90n
10E60y 10E7Fn 10E80y 10EAAn 10EADy 10EAEn 10EB0y 10EB2n 10EC2y 10EC8n 10ED0y 10ED9n 10F00y 10F28n
10F30y 10F46n 10F51y 10F5An 10F70y 10F82n 10F86y 10F8An 10FB0y 10FCCn 10FE0y 10FF7n 11000y 11001n
11002y 11038n 11047y 1104En 11052y 11070n 11071y 11073n 11075y 11076n 11082y 110B3n 110B7y 110B9n
110BBy 110BDn 110BEy 110C2n 110D0y 110E9n 110F0y 110FAn 11103y 11127n 1112Cy 1112Dn 11136y 11148n
11150y 11173n 11174y 11177n 11182y 111B6n 111BFy 111C0n 111C1y 111C9n 111CDy 111CFn 111D0y 111E0n
111E1y 111F5n 11200y 11212n 11213y 1122Fn 11232y 11234n 11238y 1123En 1123Fy 11241n 11280y 11287n
11288y 11289n 1128Ay 1128En 1128Fy 1129En 1129Fy 112AAn 112B0y 112DFn 112E0y 112E3n 112F0y 112FAn
11302y 11304n 11305y 1130Dn 1130Fy 11311n 11313y 11329n 1132Ay 11331n 11332y 11334n 11335y 1133An
1133Dy 1133En 1133Fy 11340n 11341y 11345n 11347y 11349n 1134By 1134Dn 11350y 11351n 1135Dy 11364n
11380y 1138An 1138By 1138Cn 1138Ey 1138Fn 11390y 113B6n 113B7y 113B8n 113B9y 113BBn 113CAy 113CBn
113CCy 113CEn 113D1y 113D2n 113D3y 113D6n 113D7y 113D9n 11400y 11438n 11440y 11442n 11445y 11446n
11447y 1145Cn 1145Dy 1145En 1145Fy 11462n 11480y 114B0n 114B1y 114B3n 114B9y 114BAn 114BBy 114BDn
114BEy 114BFn 114C1y 114C2n 114C4y 114C8n 114D0y 114DAn 11580y 115AFn 115B0y 115B2n 115B8y 115BCn
115BEy 115BFn 115C1y 115DCn 11600y 11633n 1163By 1163Dn 1163Ey 1163Fn 11641y 11645n 11650y 1165An
11660y 1166Dn 11680y 116ABn 116ACy 116ADn 116AEy 116B0n 116B8y 116BAn 116C0y 116CAn 116D0y 116E4n
11700y 1171Bn 1171Ey 1171Fn 11720y 11722n 11726y 11727n 11730y 11747n 11800y 1182Fn 11838y 11839n
1183By 1183Cn 118A0y 118F3n 118FFy 11907n 11909y 1190An 1190Cy 11914n 11915y 11917n 11918y 11930n
11931y 11936n 11937y 11939n 1193Fy 11943n 11944y 11947n 11950y 1195An 119A0y 119A8n 119AAy 119D4n
119DCy 119E0n 119E1y 119E5n 11A00y 11A01n 11A0By 11A33n 11A39y 11A3Bn 11A3Fy 11A47n 11A50y 11A51n
11A57y 11A59n 11A5Cy 11A8An 11A97y 11A98n 11A9Ay 11AA3n 11AB0y 11AF9n 11B00y 11B0An 11B61y 11B62n
11B65y 11B66n 11B67y 11B68n 11BC0y 11BE2n 11BF0y 11BFAn 11C00y 11C09n 11C0Ay 11C30n 11C3Ey 11C3Fn
11C40y 11C46n 11C50y 11C6Dn 11C70y 11C90n 11CA9y 11CAAn 11CB1y 11CB2n 11CB4y 11CB5n 11D00y 11D07n
11D08y 11D0An 11D0By 11D31n 11D46y 11D47n 11D50y 11D5An 11D60y 11D66n 11D67y 11D69n 11D6Ay 11D8Fn
11D93y 11D95n 11D96y 11D97n 11D98y 11D99n 11DA0y 11DAAn 11DB0y 11DDCn 11DE0y 11DEAn 11EE0y 11EF3n
11EF5y 11EF9n 11F02y 11F11n 11F12y 11F36n 11F3Ey 11F40n 11F43y 11F5An 11FB0y 11FB1n 11FC0y 11FF2n
11FFFy 1239An 12400y 1246Fn 12470y 12475n 12480y 12544n 12F90y 12FF3n 13000y 13430n 13441y 13447n
13460y 143FBn 14400y 14647n 16100y 1611En 1612Ay 1612Dn 16130y 1613An 16800y 16A39n 16A40y 16A5Fn
16A60y 16A6An 16A6Ey 16ABFn 16AC0y 16ACAn 16AD0y 16AEEn 16AF5y 16AF6n 16B00y 16B30n 16B37y 16B46n
16B50y 16B5An 16B5By 16B62n 16B63y 16B78n 16B7Dy 16B90n 16D40y 16D7An 16E40y 16E9Bn 16EA0y 16EB9n
16EBBy 16ED4n 16F00y 16F4Bn 16F50y 16F88n 16F93y 16FA0n 16FE0y 16FE4n 16FF2y 16FF7n 17000y 18CD6n
18CFFy 18D1Fn 18D80y 18DF3n 1AFF0y 1AFF4n 1AFF5y 1AFFCn 1AFFDy 1AFFFn 1B000y 1B123n 1B132y 1B133n
1B150y 1B153n 1B155y 1B156n 1B164y 1B168n 1B170y 1B2FCn 1BC00y 1BC6Bn 1BC70y 1BC7Dn 1BC80y 1BC89n
1BC90y 1BC9An 1BC9Cy 1BC9Dn 1BC9Fy 1BCA0n 1CC00y 1CCFDn 1CD00y 1CEB4n 1CEBAy 1CED1n 1CEE0y 1CEF1n
1CF50y 1CFC4n 1D000y 1D0F6n 1D100y 1D127n 1D129y 1D165n 1D16Ay 1D16Dn 1D183y 1D185n 1D18Cy 1D1AAn
1D1AEy 1D1EBn 1D200y 1D242n 1D245y 1D246n 1D2C0y 1D2D4n 1D2E0y 1D2F4n 1D300y 1D357n 1D360y 1D379n
1D400y 1D455n 1D456y 1D49Dn 1D49Ey 1D4A0n 1D4A2y 1D4A3n 1D4A5y 1D4A7n 1D4A9y 1D4ADn 1D4AEy 1D4BAn
1D4BBy 1D4BCn 1D4BDy 1D4C4n 1D4C5y 1D506n 1D507y 1D50Bn 1D50Dy 1D515n 1D516y 1D51Dn 1D51Ey 1D53An
1D53By 1D53Fn 1D540y 1D545n 1D546y 1D547n 1D54Ay 1D551n 1D552y 1D6A6n 1D6A8y 1D7CCn 1D7CEy 1DA00n
1DA37y 1DA3Bn 1DA6Dy 1DA75n 1DA76y 1DA84n 1DA85y 1DA8Cn 1DF00y 1DF1Fn 1DF25y 1DF2Bn 1E030y 1E06En
1E100y 1E12Dn 1E137y 1E13En 1E140y 1E14An 1E14Ey 1E150n 1E290y 1E2AEn 1E2C0y 1E2ECn 1E2F0y 1E2FAn
1E2FFy 1E300n 1E4D0y 1E4ECn 1E4F0y 1E4FAn 1E5D0y 1E5EEn 1E5F0y 1E5FBn 1E5FFy 1E600n 1E6C0y 1E6DFn
1E6E0y 1E6E3n 1E6E4y 1E6E6n 1E6E7y 1E6EEn 1E6F0y 1E6F5n 1E6FEy 1E700n 1E7E0y 1E7E7n 1E7E8y 1E7ECn
1E7EDy 1E7EFn 1E7F0y 1E7FFn 1E800y 1E8C5n 1E8C7y 1E8D0n 1E900y 1E944n 1E94By 1E94Cn 1E950y 1E95An
1E95Ey 1E960n 1EC71y 1ECB5n 1ED01y 1ED3En 1EE00y 1EE04n 1EE05y 1EE20n 1EE21y 1EE23n 1EE24y 1EE25n
1EE27y 1EE28n 1EE29y 1EE33n 1EE34y 1EE38n 1EE39y 1EE3An 1EE3By 1EE3Cn 1EE42y 1EE43n 1EE47y 1EE48n
1EE49y 1EE4An 1EE4By 1EE4Cn 1EE4Dy 1EE50n 1EE51y 1EE53n 1EE54y 1EE55n 1EE57y 1EE58n 1EE59y 1EE5An
1EE5By 1EE5Cn 1EE5Dy 1EE5En 1EE5Fy 1EE60n 1EE61y 1EE63n 1EE64y 1EE65n 1EE67y 1EE6Bn 1EE6Cy 1EE73n
1EE74y 1EE78n 1EE79y 1EE7Dn 1EE7Ey 1EE7Fn 1EE80y 1EE8An 1EE8By 1EE9Cn 1EEA1y 1EEA4n 1EEA5y 1EEAAn
1EEABy 1EEBCn 1EEF0y 1EEF2n 1F000y 1F02Cn 1F030y 1F094n 1F0A0y 1F0AFn 1F0B1y 1F0C0n 1F0C1y 1F0D0n
1F0D1y 1F0F6n 1F100y 1F1AEn 1F1E6y 1F203n 1F210y 1F23Cn 1F240y 1F249n 1F250y 1F252n 1F260y 1F266n
1F300y 1F6D9n 1F6DCy 1F6EDn 1F6F0y 1F6FDn 1F700y 1F7DAn 1F7E0y 1F7ECn 1F7F0y 1F7F1n 1F800y 1F80Cn
1F810y 1F848n 1F850y 1F85An 1F860y 1F888n 1F890y 1F8AEn 1F8B0y 1F8BCn 1F8C0y 1F8C2n 1F8D0y 1F8D9n
1F900y 1FA58n 1FA60y 1FA6En 1FA70y 1FA7Dn 1FA80y 1FA8Bn 1FA8Ey 1FAC7n 1FAC8y 1FAC9n 1FACDy 1FADDn
1FADFy 1FAEBn 1FAEFy 1FAF9n 1FB00y 1FB93n 1FB94y 1FBFBn 20000y 2A6E0n 2A700y 2B81En 2B820y 2CEAEn
2CEB0y 2EBE1n 2EBF0y 2EE5En 2F800y 2FA1En 30000y 3134Bn 31350y 3347An"

/-- The property by first characters. -/
def shown : Table Bool := .ofRows Table.flag? shownRows

/-- **Whether a character is shown as it is.** -/
def isShown (c : Char) : Bool := ((shown.floor? c.toNat).map (·.2)).getD false

end RealtimeClient.Text
